import EventCorrelation.Database.Address.Basic
import EventCorrelation.Text.Pieces

/-!
# Paths of addresses

A path is a sequence of segments. A segment of one dot stands for its own folder, one of two dots
for the folder around it; either dot may be spelled with a percent sign. Both are resolved while the
path is read, but no drive is ever left.
-/

namespace EventCorrelation.Database.Address

/-- A segment that stands for its own folder. -/
def isSame (segment : List Char) : Bool :=
  [".", "%2e"].contains (String.ofList (segment.map Char.toLower))

/-- A segment that stands for the folder around its own. -/
def isParent (segment : List Char) : Bool :=
  ["..", ".%2e", "%2e.", "%2e%2e"].contains (String.ofList (segment.map Char.toLower))

/-- A text that begins with a letter and a colon or a bar begins with a drive, if nothing else or a
backslash follows. -/
def isDrive : List Char → Bool
  | letter :: mark :: rest =>
    letter.isAlpha && (mark == ':' || mark == '|') && (rest.isEmpty || rest.head? == some '\\')
  | _ => false

/-- The folders that are left behind `..`. The innermost folder comes first. -/
def leave : List (List Char) → List (List Char)
  | [] => []
  | folder :: folders => if isDrive folder then folder :: folders else folders

/-- The text of folders, from the innermost to the outermost, and of what the innermost one holds.
-/
def joinPath (folders : List (List Char)) (last : List Char) : List Char :=
  folders.foldl (fun text folder => folder ++ '/' :: text) last

/-- Resolves the segments that are left. -/
def resolve (folders : List (List Char)) : List (List Char) → List Char
  | [] => joinPath folders []
  | [last] =>
    if isSame last then joinPath folders []
    else if isParent last then joinPath (leave folders) []
    else joinPath folders last
  | segment :: rest =>
    if isSame segment then resolve folders rest
    else if isParent segment then resolve (leave folders) rest
    else resolve (segment :: folders) rest

/-- The segments of a path. -/
def segments (isSlash : Char → Bool) (path : List Char) : List (List Char) :=
  Text.pieces '/' (path.map fun symbol => if isSlash symbol then '/' else symbol)

/-- The path of an address, without the slash at its beginning. -/
def readPath (kind : SchemeKind) (text : List Char) : List Char :=
  let path := text.takeWhile (!endsPath ·)
  let inner := if path.head?.any kind.isSlash then path.drop 1 else path
  resolve [] (segments kind.isSlash inner)

/-- The options behind the question mark. -/
def readQuery (text : List Char) : List Char :=
  let front := text.takeWhile (· != '#')
  (front.dropWhile (· != '?')).drop 1

end EventCorrelation.Database.Address
