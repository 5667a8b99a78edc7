/-!
# Paths

A path is the text that names a file or a directory, with slashes between its parts. It
is kept as it is written: joining paths does not remove parts that lead nowhere or back.
`Path.parts` says what a path means, part by part.
-/

namespace MessageGen

/-- A path, as it is written. -/
structure Path where
  text : String
  deriving DecidableEq, Repr, Inhabited

namespace Path

/-- Whether a path starts at the root of the file system. -/
def isAbsolute (path : Path) : Bool :=
  path.text.toList.head? == some '/'

/--
Appends a piece to a path. An absolute piece takes the place of the path. Otherwise a
slash goes between the two, unless the path is empty or ends in one.
-/
def push (path : Path) (piece : String) : Path :=
  if piece.toList.head? = some '/' then ⟨piece⟩
  else if path.text.isEmpty || path.text.toList.getLast? == some '/' then ⟨path.text ++ piece⟩
  else ⟨path.text ++ "/" ++ piece⟩

/-- A path below another one. -/
def join (path other : Path) : Path :=
  path.push other.text

/-- The path of pieces that are pushed one after another. -/
def ofPieces (pieces : List String) : Path :=
  pieces.foldl push ⟨""⟩

/-- A part of a path. -/
inductive Part where
  /-- The directory itself. -/
  | here
  /-- The directory above. -/
  | above
  | entry (name : String)
  deriving DecidableEq, Repr, Inhabited

/-- The part that a piece between slashes stands for. An empty piece leads nowhere. -/
def Part.ofPiece (piece : String) : Part :=
  if piece = "" ∨ piece = "." then .here
  else if piece = ".." then .above
  else .entry piece

/-- The parts of a path. A slash at the end adds the directory itself. -/
def parts (path : Path) : List Part :=
  (path.text.toList.splitOn '/').map fun piece => .ofPiece (String.ofList piece)

/--
Removes slashes and parts that lead nowhere from the end of a path, which is given in
reverse. The root and a path that is only such a part are kept.
-/
def trimReversed : List Char → List Char
  | ['/'] => ['/']
  | '/' :: rest => trimReversed rest
  | '.' :: '/' :: rest => trimReversed ('/' :: rest)
  | other => other

theorem length_trimReversed_le (reversed : List Char) :
    (trimReversed reversed).length ≤ reversed.length := by
  fun_induction trimReversed reversed with
  | case1 => simp
  | case2 rest _ ih => simp only [List.length_cons]; omega
  | case3 rest ih => simp only [List.length_cons] at *; omega
  | case4 => simp

/-- The path without its last part. The root and the empty path have none. -/
def parent? (path : Path) : Option Path :=
  match trimReversed path.text.toList.reverse with
  | [] => none
  | ['/'] => none
  | _ :: rest => some ⟨String.ofList (trimReversed (rest.dropWhile (· != '/'))).reverse⟩

theorem length_parent?_lt {path parent : Path} (found : path.parent? = some parent) :
    parent.text.length < path.text.length := by
  have bound := length_trimReversed_le path.text.toList.reverse
  unfold parent? at found
  split at found
  · simp at found
  · simp at found
  · rename_i last rest _ trimmed
    simp only [Option.some.injEq] at found
    subst found
    have outer := length_trimReversed_le (rest.dropWhile (· != '/'))
    have inner := (List.dropWhile_suffix (l := rest) (· != '/')).length_le
    rw [trimmed] at bound
    simp only [List.length_cons, List.length_reverse, String.length_toList] at bound
    simp only [String.length_ofList, List.length_reverse]
    omega

end Path

end MessageGen
