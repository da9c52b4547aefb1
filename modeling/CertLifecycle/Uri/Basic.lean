import CertLifecycle.Uri.Host

/-!
URIs in their parts, each already in the form in which it is written, and the text they make up.
-/

namespace CertLifecycle

namespace Uri

/-- What stands between the two slashes and the path. -/
structure Authority where
  /-- User name and password with the colon between them, if there are any. -/
  userInfo : Option (List Char)
  host : Host
  /-- The port, where it is not the one that the scheme implies. -/
  port : Option Nat
  deriving DecidableEq

namespace Authority

/-- The authority as it stands after the two slashes. -/
def text (authority : Authority) : List Char :=
  (authority.userInfo.map (· ++ ['@'])).getD [] ++ authority.host.text
    ++ (authority.port.map fun port => ':' :: Text.natChars 10 port).getD []

end Authority

/-- A path: segments that each follow a slash, or one text without structure. -/
inductive Path where
  | segments (parts : List (List Char))
  | flat (text : List Char)
  deriving DecidableEq

namespace Path

/-- The path as it is written. -/
def text : Path → List Char
  | .segments parts => parts.flatMap fun part => '/' :: part
  | .flat text => text

end Path

end Uri

structure Uri where
  scheme : List Char
  authority : Option Uri.Authority
  path : Uri.Path
  query : Option (List Char)
  fragment : Option (List Char)
  deriving DecidableEq

namespace Uri

/-- What stands between the scheme and the path. Without an authority, a path that begins with two
slashes is set apart by a dot segment, so that it is not taken for an authority. -/
def authorityText (uri : Uri) : List Char :=
  match uri.authority with
  | some authority => ['/', '/'] ++ authority.text
  | none => if ['/', '/'].isPrefixOf uri.path.text then ['/', '.'] else []

def chars (uri : Uri) : List Char :=
  uri.scheme ++ [':'] ++ uri.authorityText ++ uri.path.text
    ++ (uri.query.map ('?' :: ·)).getD [] ++ (uri.fragment.map ('#' :: ·)).getD []

def text (uri : Uri) : String :=
  String.ofList uri.chars

end Uri

end CertLifecycle
