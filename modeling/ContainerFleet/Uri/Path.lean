import ContainerFleet.Uri.Percent

namespace ContainerFleet.UriPath

def dots (cs : List Char) : List Char :=
  match cs with
  | '%' :: '2' :: c :: cs => if c = 'e' || c = 'E' then '.' :: dots cs else '%' :: '2' :: c :: dots cs
  | c :: cs => c :: dots cs
  | [] => []

/-- A segment that starts with the letter of a drive. Nothing is above it. -/
def isDrive (cs : List Char) : Bool :=
  match cs with
  | [a, b] => a.isAlpha && (b = ':' || b = '|')
  | a :: b :: c :: _ => a.isAlpha && (b = ':' || b = '|') && c = '\\'
  | _ => false

def above (done : List (List Char)) : List (List Char) :=
  if done.getLast?.any isDrive then done else done.dropLast

def resolve (done : List (List Char)) : List (List Char) → List (List Char)
  | [] => done
  | [s] =>
    if dots s = ['.', '.'] then above done ++ [[]]
    else if dots s = ['.'] then done ++ [[]]
    else done ++ [s]
  | s :: ss =>
    if dots s = ['.', '.'] then resolve (above done) ss
    else if dots s = ['.'] then resolve done ss
    else resolve (done ++ [s]) ss

def absolute (cs : List Char) : List Char :=
  let cs := match cs with
    | '/' :: cs => cs
    | cs => cs
  let segments := (Percent.encode Percent.isOutsidePath cs).splitOn '/'
  '/' :: List.intercalate ['/'] (resolve [] segments)

end ContainerFleet.UriPath
