import Componentry.Text.Scan
import Componentry.Url.Percent

/-!
# Paths

A path is kept as it is written: it is empty or begins with a slash. `readPath` adds one segment
after the other behind what is there; `.` adds nothing and `..` takes back the segment before, also
when the dots are encoded. In a special scheme a backslash is a slash.

A segment that is a drive letter, as in `/C:/`, is never taken back, whatever the scheme is. At the
root of a file the letter may also be followed by a bar, which becomes a colon.
-/

namespace Componentry.Url

open Componentry.Text

def isSlash (special : Bool) (c : Char) : Bool := c == '/' || (special && c == '\\')

def endsPath (c : Char) : Bool := c == '?' || c == '#'

/-! ### Drive letters -/

def isDrive : List Char → Bool
  | [c, d] => c.isAlpha && (d == ':' || d == '|')
  | _ => false

def isPlainDrive : List Char → Bool
  | [c, ':'] => c.isAlpha
  | _ => false

def beginsWithDrive : List Char → Bool
  | c :: d :: r => isDrive [c, d] && r.head?.all fun e => isSlash true e || endsPath e
  | _ => false

/-! ### Segments of a written path -/

def firstSegment (path : List Char) : List Char := path.tail.takeWhile (· ≠ '/')

def lastSegment (path : List Char) : List Char := (path.reverse.takeWhile (· ≠ '/')).reverse

def throughSlash (path : List Char) : List Char := (path.reverse.dropWhile (· ≠ '/')).reverse

def withSlash (path : List Char) : List Char :=
  if path.getLast? = some '/' then path else path ++ ['/']

/-- The path without the text behind its last slash. The drive letter of a file stays. -/
def withoutLast (file : Bool) (path : List Char) : List Char :=
  if file && isPlainDrive (lastSegment path) then path else throughSlash path

/-- Whether the segment in front of the slash at the end of a path can be taken back: it is there,
and is no drive letter. -/
def canTakeBack (path : List Char) : Bool :=
  path.dropLast.contains '/' && !beginsWithDrive (lastSegment path.dropLast ++ ['/'])

def takeBack (file : Bool) (path : List Char) : List Char :=
  if path.getLast? = some '/' ∧ canTakeBack path then withoutLast file path.dropLast
  else withoutLast file path

/-! ### Reading -/

def plainDots : List Char → List Char
  | [] => []
  | '%' :: '2' :: c :: cs => if c.toLower = 'e' then '.' :: plainDots cs else '%' :: '2' :: c :: cs
  | c :: cs => c :: plainDots cs

def addSegment (file : Bool) (path segment : List Char) (slash : Bool) : List Char :=
  let path := if file && !segment.isEmpty && isPlainDrive path.tail then path ++ ['/'] else path
  let ending := if slash then ['/'] else []
  if plainDots segment = ['.', '.'] then
    if slash then withSlash (takeBack file path) else takeBack file path
  else if plainDots segment = ['.'] then withSlash path
  else if file && path == ['/'] && isDrive segment then path ++ segment.take 1 ++ [':'] ++ ending
  else path ++ encode pathSet segment ++ ending

def readPath (special file : Bool) (path s : List Char) : List Char × List Char :=
  let ends (c : Char) : Bool := isSlash special c || endsPath c
  let segment := s.takeWhile (!ends ·)
  match _h : s.dropWhile (!ends ·) with
  | [] => (addSegment file path segment false, [])
  | c :: r =>
    if isSlash special c then readPath special file (addSegment file path segment true) r
    else (addSegment file path segment false, c :: r)
termination_by s.length
decreasing_by
  have := congrArg List.length _h
  have := length_dropWhile_le (!ends ·) s
  simp only [List.length_cons] at *
  omega

/-- The path of a file has no empty segments in front. -/
def filePath (path : List Char) : List Char := '/' :: path.dropWhile (· = '/')

def dropSlash (special : Bool) : List Char → List Char
  | c :: r => if isSlash special c then r else c :: r
  | [] => []

end Componentry.Url
