import MessageGen.Class.Identifier
import MessageGen.Proofs.Text.Case

/-!
# Names of members

The camel-case form of a name has no underscores, whatever letters the name is made of.
So the underscore behind a reserved word leads out of these forms, and fields with
different camel-case forms have members of different names.
-/

namespace MessageGen

theorem underscore_not_mem_joinWords (capitalizeNext : Bool) (text : List Char) :
    '_' ∉ joinWords capitalizeNext text := by
  fun_induction joinWords capitalizeNext text with
  | case1 => exact List.not_mem_nil
  | case2 capitalizeNext rest ih => exact ih
  | case3 capitalizeNext character rest different ih =>
      rw [List.mem_append, not_or]
      refine ⟨?_, ih⟩
      split
      · exact Text.underscore_not_mem_upperCase different
      · rw [List.mem_singleton]
        exact Ne.symm different

theorem ne_underscore_of_dropWhile {name rest : List Char} {character : Char}
    (letters : name.dropWhile (· == '_') = character :: rest) : character ≠ '_' := by
  have isFirst := List.head?_dropWhile_not (· == '_') name
  rw [letters] at isFirst
  simpa using isFirst

theorem underscore_not_mem_camelCase (name : List Char) : '_' ∉ camelCase name := by
  unfold camelCase
  split
  · exact List.not_mem_nil
  · rename_i first rest letters
    have different := ne_underscore_of_dropWhile letters
    rw [List.mem_append, not_or]
    exact ⟨Text.underscore_not_mem_lowerCase different, underscore_not_mem_joinWords false rest⟩

theorem underscore_not_mem_camelCaseName (name : String) :
    '_' ∉ (camelCaseName name).toList := by
  rw [camelCaseName, String.toList_ofList]
  exact underscore_not_mem_camelCase name.toList

theorem eq_of_safeIdentifier_eq {left right : String} (leftApart : '_' ∉ left.toList)
    (rightApart : '_' ∉ right.toList) (same : safeIdentifier left = safeIdentifier right) :
    left = right := by
  have append_ne : ∀ {reserved other : String}, '_' ∉ other.toList → reserved ++ "_" ≠ other := by
    rintro reserved _ apart rfl
    simp at apart
  unfold safeIdentifier at same
  split at same
  · split at same
    · exact (String.append_left_inj "_").mp same
    · exact absurd same (append_ne rightApart)
  · split at same
    · exact absurd same.symm (append_ne leftApart)
    · exact same

/-- Fields have one member name only if they have one camel-case form. -/
theorem camelCaseName_eq_of_memberName_eq {left right : String}
    (same : memberName left = memberName right) : camelCaseName left = camelCaseName right :=
  eq_of_safeIdentifier_eq (underscore_not_mem_camelCaseName left)
    (underscore_not_mem_camelCaseName right) same

example : memberName "__Class_" = "class_" ∧ memberName "TIMEOUT_ms" = "tIMEOUTMs" ∧
    memberName "__" = "" := by
  decide +kernel

end MessageGen
