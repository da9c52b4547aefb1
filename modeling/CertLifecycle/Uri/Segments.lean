import CertLifecycle.Uri.Basic

/-!
The segments of a path: cut at slashes, escaped, and with the steps "." and ".." carried out. A step
to the parent never removes a segment that begins with a drive letter. Tabs and line ends do not
count in a URI, but one directly after the drive letter of a file makes it a segment of its own.
-/

namespace CertLifecycle.Uri

/-- Whether a character is a tab or a line end. -/
def isBreak (c : Char) : Bool :=
  c == '\t' || c == '\n' || c == '\r'

/-- A text without its tabs and line ends. -/
def unbroken (cs : List Char) : List Char :=
  cs.filter (!isBreak ·)

/-- Whether a segment is a drive letter: a letter and a colon or a bar. -/
def isDriveLetter : List Char → Bool
  | [letter, mark] => letter.isAlpha && (mark == ':' || mark == '|')
  | _ => false

/-- Whether a segment begins with a drive letter that stands for itself. -/
def beginsWithDriveLetter (segment : List Char) : Bool :=
  isDriveLetter (segment.take 2) && (segment.drop 2).head?.all (· == '\\')

/-- Cuts a raw segment after a drive letter with a colon, if a break follows it and then more. -/
def cutDriveLetter? (segment : List Char) : Option (List Char × List Char) :=
  let drive := unbroken (segment.takeWhile (· != ':')) ++ [':']
  match (segment.dropWhile (· != ':')).drop 1 with
  | mark :: rest =>
    let name := unbroken rest
    if isDriveLetter drive && isBreak mark && !name.isEmpty then some (drive, name) else none
  | [] => none

/-- The kind of step that a segment makes. -/
inductive SegmentStep where
  | here
  | parent
  | into (name : List Char)

/-- The step of an escaped segment; an escaped dot counts as a dot. -/
def SegmentStep.of (segment : List Char) : SegmentStep :=
  let lower := segment.map Char.toLower
  let dots := [['.'], ['%', '2', 'e']]
  if dots.contains lower then .here
  else if (dots.flatMap fun first => dots.map (first ++ ·)).contains lower then .parent
  else .into segment

/-- The way to the parent, for segments kept latest first. -/
def parentOf : List (List Char) → List (List Char)
  | [] => []
  | last :: earlier => if beginsWithDriveLetter last then last :: earlier else earlier

/-- The segments of a path, and whether its host still counts. -/
structure Walk where
  /-- The segments kept so far, latest first. -/
  kept : List (List Char)
  keepsHost : Bool

namespace Walk

/-- Goes into a segment. A drive letter that opens the path of a file is written with a colon and
takes the place of the host. -/
def into (file : Bool) (walk : Walk) (segment : List Char) : Walk :=
  if file && walk.kept.isEmpty && isDriveLetter segment then
    ⟨[segment.take 1 ++ [':']], false⟩
  else ⟨segment :: walk.kept, walk.keepsHost⟩

/-- Walks through raw segments. A step that ends the path leaves an empty last segment. -/
def through (file : Bool) : Walk → List (List Char) → Walk
  | walk, [] => walk
  | walk, segment :: rest =>
    let close (kept : List (List Char)) : List (List Char) :=
      if rest.isEmpty then [] :: kept else kept
    match if file && walk.kept.isEmpty then cutDriveLetter? segment else none with
    | some (drive, name) =>
      -- What follows the drive letter is taken as it is, even if it looks like a step.
      through file ⟨escape escapesInPath name :: drive :: walk.kept, walk.keepsHost⟩ rest
    | none =>
      match SegmentStep.of (escape escapesInPath (unbroken segment)) with
      | .here => through file ⟨close walk.kept, walk.keepsHost⟩ rest
      | .parent => through file ⟨close (parentOf walk.kept), walk.keepsHost⟩ rest
      | .into name => through file (walk.into file name) rest

end Walk

/-- Cuts a path at its separators; a backslash is one in the schemes of the web and of files. -/
def rawSegments (special : Bool) (cs : List Char) : List (List Char) :=
  Text.pieces '/' (if special then cs.map fun c => if c = '\\' then '/' else c else cs)

/-- Drops the empty segments at the front, but keeps one segment. -/
def dropEmptyFront (segments : List (List Char)) : List (List Char) :=
  match segments.dropWhile List.isEmpty with
  | [] => [[]]
  | kept => kept

/-- The segments that a raw path leads through, and whether the host still counts. -/
def walkPath (special file : Bool) (cs : List Char) : List (List Char) × Bool :=
  let walk := Walk.through file ⟨[], true⟩ (rawSegments special cs)
  let segments := walk.kept.reverse
  (if file then dropEmptyFront segments else segments, walk.keepsHost)

end CertLifecycle.Uri
