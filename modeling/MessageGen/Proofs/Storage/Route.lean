import MessageGen.Proofs.Text.Characters
import MessageGen.Storage.Path

/-!
# Where paths lead

Two paths that differ only in slashes and in parts that lead nowhere name the same file,
so paths are compared by their routes: whether they start at the root, and their other
parts. Pushing a piece appends its steps to the route, unless the piece starts at the
root itself, and the parent of a path leads where the path leads without its last step.
-/

namespace MessageGen

namespace Path

/-- The parts of a text between slashes that lead somewhere. -/
def steps (text : List Char) : List Part :=
  ((text.splitOn '/').map fun piece => .ofPiece (String.ofList piece)).filter (· ≠ .here)

/-- Where a path leads: whether it starts at the root, and its steps. -/
def route (path : Path) : Bool × List Part :=
  (path.isAbsolute, path.parts.filter (· ≠ .here))

/-- The route of a piece that is pushed to a directory. -/
def routeBelow (directory : Bool × List Part) (piece : String) : Bool × List Part :=
  if piece.toList.head? = some '/' then (true, steps piece.toList)
  else (directory.1, directory.2 ++ steps piece.toList)

variable {path : Path} {piece : String}

theorem route_eq (path : Path) : path.route = (path.isAbsolute, steps path.text.toList) :=
  rfl

@[simp]
theorem steps_nil : steps [] = [] := by
  decide

theorem steps_of_slash_free {piece : List Char} (slashFree : '/' ∉ piece) :
    steps piece = [Part.ofPiece (String.ofList piece)].filter (· ≠ .here) := by
  rw [steps, List.splitOn_eq_singleton slashFree, List.map_singleton]

theorem steps_append_slash (left right : List Char) :
    steps (left ++ '/' :: right) = steps left ++ steps right := by
  simp only [steps, List.splitOn_append_cons_self, List.map_append, List.filter_append]

theorem steps_concat_slash (text : List Char) : steps (text ++ ['/']) = steps text := by
  rw [steps_append_slash, steps_nil, List.append_nil]

theorem steps_append_of_slash {left : List Char} (right : List Char)
    (ends : left.getLast? = some '/') : steps (left ++ right) = steps left ++ steps right := by
  rcases List.getLast?_eq_some_iff.mp ends with ⟨front, rfl⟩
  rw [List.append_assoc, List.singleton_append, steps_append_slash, steps_concat_slash]

theorem isAbsolute_append {front back : String} (nonempty : front ≠ "") :
    isAbsolute ⟨front ++ back⟩ = isAbsolute ⟨front⟩ := by
  simp only [isAbsolute, String.toList_append]
  cases characters : front.toList with
  | nil => exact absurd (String.toList_eq_nil_iff.mp characters) nonempty
  | cons first rest => rfl

theorem route_push (path : Path) (piece : String) :
    (path.push piece).route = routeBelow path.route piece := by
  rcases path with ⟨text⟩
  simp only [push, routeBelow, route_eq]
  split
  · rename_i absolute
    simp [isAbsolute, absolute]
  · rename_i relative
    by_cases isEmpty : text = ""
    · subst isEmpty
      simp [isAbsolute, relative]
    · simp only [String.isEmpty_eq_false_iff.mpr isEmpty, Bool.false_or, beq_iff_eq]
      split
      · rename_i ends
        rw [isAbsolute_append isEmpty, String.toList_append, steps_append_of_slash _ ends]
      · rw [String.append_assoc, isAbsolute_append isEmpty, String.toList_append,
          String.toList_append]
        exact congrArg _ (steps_append_slash text.toList piece.toList)

/-- A path that does not start at the root leads on from where it is joined. -/
theorem route_join (root : Path) (relative : path.route.1 = false) :
    (root.join path).route = (root.route.1, root.route.2 ++ path.route.2) := by
  have notAbsolute : path.text.toList.head? ≠ some '/' := by
    simpa [route, isAbsolute] using relative
  rw [join, route_push, routeBelow, if_neg notAbsolute, route_eq path]

theorem Part.ofPiece_eq_entry (nonempty : piece ≠ "") (notHere : piece ≠ ".")
    (notAbove : piece ≠ "..") : Part.ofPiece piece = .entry piece := by
  simp [Part.ofPiece, nonempty, notHere, notAbove]

theorem Part.ofPiece_eq_entry_of_getLast? {last : Char} (ends : piece.toList.getLast? = some last)
    (notPoint : last ≠ '.') : Part.ofPiece piece = .entry piece := by
  apply Part.ofPiece_eq_entry
  · rintro rfl
    cases ends
  · rintro rfl
    exact notPoint (Option.some.inj ends).symm
  · rintro rfl
    exact notPoint (Option.some.inj ends).symm

/-- A name that a path enters is not empty and has no slashes. -/
theorem plain_of_entry_mem_route {name : String} (entry_mem : Part.entry name ∈ path.route.2) :
    name ≠ "" ∧ '/' ∉ name.toList := by
  simp only [route_eq, steps, List.mem_filter, List.mem_map] at entry_mem
  rcases entry_mem with ⟨⟨piece, piece_mem, isEntry⟩, -⟩
  simp only [Part.ofPiece] at isEntry
  split at isEntry
  · cases isEntry
  split at isEntry
  · cases isEntry
  rename_i notHere _
  cases isEntry
  refine ⟨fun isEmpty => notHere (.inl isEmpty), ?_⟩
  rw [String.toList_ofList]
  intro slash_mem
  exact (Text.mem_of_mem_splitOn piece piece_mem '/' slash_mem).2 rfl

/-- The last step of a text with an extension enters a name with the extension. -/
theorem exists_entry_suffix_steps (front : List Char) {extension : List Char}
    (nonempty : extension ≠ []) (slashFree : '/' ∉ extension) (pointFree : '.' ∉ extension) :
    ∃ name : String, [Part.entry name] <:+ steps (front ++ '.' :: extension) ∧
      '.' ∈ name.toList := by
  have entry_of_slash_free : ∀ stem : List Char, '/' ∉ stem →
      steps (stem ++ '.' :: extension) =
        [Part.entry (String.ofList (stem ++ '.' :: extension))] := by
    intro stem stemSlashFree
    have pieceSlashFree : '/' ∉ stem ++ '.' :: extension := by
      simp [stemSlashFree, slashFree]
    have isLast : (String.ofList (stem ++ '.' :: extension)).toList.getLast? =
        some (extension.getLast nonempty) := by
      simp [List.getLast?_cons, List.getLast?_eq_some_getLast nonempty]
    have isEntry := Part.ofPiece_eq_entry_of_getLast? isLast
      (fun isPoint => pointFree (isPoint ▸ List.getLast_mem nonempty))
    rw [steps_of_slash_free pieceSlashFree, isEntry]
    rfl
  by_cases hasSlash : '/' ∈ front
  · rcases List.eq_append_cons_of_mem (List.mem_reverse.mpr hasSlash) with
      ⟨behind, before, parts, behindSlashFree⟩
    have split : front = before.reverse ++ '/' :: behind.reverse := by
      simpa using congrArg List.reverse parts
    refine ⟨String.ofList (behind.reverse ++ '.' :: extension), ?_, by simp⟩
    rw [split, List.append_assoc, List.cons_append, steps_append_slash,
      entry_of_slash_free behind.reverse (by simpa using behindSlashFree)]
    exact List.suffix_append _ _
  · refine ⟨String.ofList (front ++ '.' :: extension), ?_, by simp⟩
    exact (entry_of_slash_free front hasSlash).symm ▸ List.suffix_refl _

theorem steps_suffix_route_push (path : Path) (piece : String) :
    steps piece.toList <:+ (path.push piece).route.2 := by
  rw [route_push, routeBelow]
  split
  · exact List.suffix_refl _
  · exact List.suffix_append _ _

theorem route_push_of_slash_free (path : Path) (slashFree : '/' ∉ piece.toList) :
    (path.push piece).route =
      (path.route.1, path.route.2 ++ [Part.ofPiece piece].filter (· ≠ .here)) := by
  have relative : piece.toList.head? ≠ some '/' := fun absolute =>
    slashFree (List.mem_of_head? absolute)
  rw [route_push, routeBelow, if_neg relative, steps_of_slash_free slashFree,
    String.ofList_toList]

/-- Pieces without slashes and points that are pushed one after another are entered in turn. -/
theorem route_foldl_push {pieces : List String} (path : Path)
    (plain : ∀ piece ∈ pieces, '/' ∉ piece.toList ∧ '.' ∉ piece.toList) :
    (pieces.foldl push path).route =
      (path.route.1, path.route.2 ++ (pieces.filter (· ≠ "")).map Part.entry) := by
  induction pieces generalizing path with
  | nil => simp
  | cons piece pieces ih =>
      rcases plain piece List.mem_cons_self with ⟨slashFree, pointFree⟩
      have restPlain := fun piece piece_mem => plain piece (List.mem_cons_of_mem _ piece_mem)
      rw [List.foldl_cons, ih _ restPlain, route_push_of_slash_free path slashFree]
      by_cases isEmpty : piece = ""
      · simp [isEmpty, Part.ofPiece]
      · have isEntry : Part.ofPiece piece = .entry piece := by
          apply Part.ofPiece_eq_entry isEmpty
          · rintro rfl
            exact pointFree (by decide)
          · rintro rfl
            exact pointFree (by decide)
        simp [isEntry, isEmpty]

section Parents

variable {parent : Path}

theorem steps_append_here (text : List Char) : steps (text ++ ['/', '.']) = steps text := by
  have isHere : steps ['.'] = [] := by decide
  rw [steps_append_slash, isHere, List.append_nil]

/-- What is trimmed from the end of a path leads nowhere. -/
theorem steps_trimReversed (reversed : List Char) :
    steps (trimReversed reversed).reverse = steps reversed.reverse := by
  fun_induction trimReversed reversed with
  | case1 => rfl
  | case2 rest _ ih => rw [ih, List.reverse_cons, steps_concat_slash]
  | case3 rest ih =>
      rw [ih]
      simp only [List.reverse_cons, List.append_assoc, List.cons_append, List.nil_append]
      rw [steps_append_here, steps_concat_slash]
  | case4 => rfl

theorem getLast?_trimReversed (reversed : List Char) :
    (trimReversed reversed).getLast? = reversed.getLast? := by
  fun_induction trimReversed reversed with
  | case1 => rfl
  | case2 rest notRoot ih =>
      rw [ih]
      cases rest with
      | nil => exact absurd rfl notRoot
      | cons => rfl
  | case3 rest ih =>
      rw [ih]
      rfl
  | case4 => rfl

/-- A trimmed path does not end in a slash, unless it is the root, or in a part that is a point. -/
theorem trimReversed_ne {reversed : List Char} (notRoot : trimReversed reversed ≠ ['/'])
    (rest : List Char) :
    trimReversed reversed ≠ '/' :: rest ∧ trimReversed reversed ≠ '.' :: '/' :: rest := by
  fun_induction trimReversed reversed with
  | case1 => exact absurd rfl notRoot
  | case2 _ _ ih => exact ih notRoot
  | case3 _ ih => exact ih notRoot
  | case4 reversed _ noSlash noPoint => exact ⟨noSlash rest, noPoint rest⟩

theorem dropLast_steps_of_slash_free {piece : List Char} (slashFree : '/' ∉ piece) :
    (steps piece).dropLast = [] := by
  rw [steps_of_slash_free slashFree, List.filter_cons]
  split <;> rfl

/-- The last step of a path enters what stands behind the last slash. -/
theorem dropLast_steps_append_slash (front : List Char) {piece : List Char}
    (slashFree : '/' ∉ piece) (nonempty : piece ≠ []) (notPoint : piece ≠ ['.']) :
    (steps (front ++ '/' :: piece)).dropLast = steps front := by
  have notHere : Part.ofPiece (String.ofList piece) ≠ .here := by
    rw [Part.ofPiece, if_neg]
    · split <;> simp
    · simp [← String.toList_inj, nonempty, notPoint]
  rw [steps_append_slash, steps_of_slash_free slashFree,
    List.filter_cons_of_pos (by simpa using notHere), List.filter_nil, List.dropLast_concat]

/-- In a reversed text, what stands behind the last slash comes first. -/
theorem dropWhile_ne_slash (reversed : List Char) :
    ('/' ∉ reversed ∧ reversed.dropWhile (· != '/') = []) ∨
      ∃ piece front, reversed = piece ++ '/' :: front ∧ '/' ∉ piece ∧
        reversed.dropWhile (· != '/') = '/' :: front := by
  by_cases hasSlash : '/' ∈ reversed
  · rcases List.eq_append_cons_of_mem hasSlash with ⟨piece, front, rfl, slashFree⟩
    exact .inr ⟨piece, front, rfl, slashFree, Text.dropWhile_bne_append slashFree front⟩
  · exact .inl ⟨hasSlash, Text.dropWhile_bne_eq_nil hasSlash⟩

theorem route_of_parent? (found : path.parent? = some parent) :
    parent.route = (path.route.1, path.route.2.dropLast) := by
  have isSteps := steps_trimReversed path.text.toList.reverse
  have isLast := getLast?_trimReversed path.text.toList.reverse
  rw [List.reverse_reverse] at isSteps
  rw [List.getLast?_reverse] at isLast
  simp only [route_eq, isAbsolute, ← isSteps, ← isLast]
  unfold parent? at found
  split at found
  · cases found
  · cases found
  · rename_i last rest notRoot trimmed
    cases found
    have isTrimmed : trimReversed path.text.toList.reverse ≠ ['/'] := by
      rw [trimmed]
      rintro same
      cases same
      exact notRoot rfl rfl
    have ends := trimReversed_ne isTrimmed
    rw [trimmed] at ends ⊢
    have notSlash : '/' ≠ last := by
      rintro rfl
      exact (ends rest).1 rfl
    rcases dropWhile_ne_slash rest with ⟨slashFree, nothing⟩ | ⟨piece, front, rfl, slashFree, above⟩
    · have pieceSlashFree : '/' ∉ (last :: rest).reverse := by
        simp [notSlash, slashFree]
      have relative : (last :: rest).getLast? ≠ some '/' := by
        rw [← List.head?_reverse]
        intro isSlash
        exact pieceSlashFree (List.mem_of_head? isSlash)
      rw [nothing, dropLast_steps_of_slash_free pieceSlashFree,
        beq_eq_false_iff_ne.mpr relative]
      decide
    · have notPoint : (last :: piece).reverse ≠ ['.'] := by
        intro same
        rcases List.cons_eq_cons.mp (List.reverse_eq_iff.mp same) with ⟨rfl, rfl⟩
        exact (ends front).2 rfl
      have whole : (last :: (piece ++ '/' :: front)).reverse =
          front.reverse ++ '/' :: (last :: piece).reverse := by
        simp
      have sameStart : (last :: (piece ++ '/' :: front)).getLast? = ('/' :: front).getLast? := by
        simp [List.getLast?_cons]
      have isFront : steps ('/' :: front).reverse = steps front.reverse := by
        rw [List.reverse_cons, steps_concat_slash]
      rw [whole, dropLast_steps_append_slash _ (by simp [notSlash, slashFree]) (by simp) notPoint,
        above, sameStart]
      simp only [String.toList_ofList, List.head?_reverse, getLast?_trimReversed,
        steps_trimReversed, isFront]

/-- Only a path that leads nowhere, or to the root, has no parent. -/
theorem steps_of_parent?_eq_none (missing : path.parent? = none) : path.route.2 = [] := by
  have isSteps := steps_trimReversed path.text.toList.reverse
  rw [List.reverse_reverse] at isSteps
  rw [route_eq, ← isSteps]
  unfold parent? at missing
  split at missing
  · rename_i trimmed
    rw [trimmed]
    rfl
  · rename_i trimmed
    rw [trimmed]
    exact steps_concat_slash []
  · cases missing

end Parents

end Path

end MessageGen
