import TestScenario.Text.Blank
import TestScenario.Text.Dict

/-!
Text files in folders.
-/

namespace TestScenario

/-- The files below a folder: their texts under their paths, with slashes between the parts. -/
structure Files where
  /-- How the folder is shown. -/
  root : String
  texts : Dict String
deriving DecidableEq, Repr

namespace Files

/-- A path below the folder as it is shown. -/
def shown (f : Files) (path : String) : String :=
  if path.startsWith "/" then path else if f.root.endsWith "/" then f.root ++ path else f.root ++ "/" ++ path

/-- A path in parts as text. -/
def pathText (parts : List String) : String := Text.join "/" parts

/-- Whether a folder has a path in parts. -/
def hasFolder (f : Files) (parts : List String) : Bool :=
  parts.isEmpty || f.texts.any fun (n, _) => n.startsWith (pathText parts ++ "/")

/-- What a path leads to from a folder, if every part before its end is a folder that is there. -/
def walk (f : Files) (place : List String) : List String → Option (List String)
  | [] => some place
  | part :: rest =>
    if !f.hasFolder place then none
    else if part.isEmpty || part == "." then walk f place rest
    else if part == ".." then (if place.isEmpty then none else walk f place.dropLast rest)
    else walk f (place ++ [part]) rest

/-- What a path leads to; an absolute one leads nowhere. -/
def resolve (f : Files) (path : String) : Option (List String) :=
  if path.startsWith "/" then none else f.walk [] (path.splitOn "/")

/-- Whether a path leads to a folder. -/
def isFolder (f : Files) (path : String) : Bool := (f.resolve path).any f.hasFolder

/-- The text of the file that a path leads to. -/
def read (f : Files) (path : String) : Option String := do f.texts.get? (pathText (← f.resolve path))

/-- The names of the files right in the folder that a path leads to, in order. -/
def namesIn (f : Files) (path : String) : List String :=
  match f.resolve path with
  | none => []
  | some place =>
    let above := String.ofList (if place.isEmpty then [] else (pathText place ++ "/").toList)
    (f.texts.filterMap fun (n, _) =>
      if n.startsWith above then
        let name := String.ofList (n.toList.drop above.length)
        if name.isEmpty || name.toList.contains '/' then none else some name
      else none)

/-- A name in the folder that a path leads to. -/
def join (path name : String) : String := if path.isEmpty || path.endsWith "/" then path ++ name else path ++ "/" ++ name

/-- What stands behind the last dot of a name, unless the dot begins it. -/
def extension? (name : String) : Option String :=
  let behind := (name.toList.reverse.takeWhile (· != '.')).reverse
  let before := name.toList.length - behind.length
  if before ≤ 1 then none else some (String.ofList behind)

end Files
end TestScenario
