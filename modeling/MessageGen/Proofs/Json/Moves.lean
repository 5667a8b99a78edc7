import Mathlib.Logic.Relation
import MessageGen.Json.Decoding
import MessageGen.Proofs.Outcome

/-!
# The moves of the reading loop

The loop that reads an outline moves from one state to the next as long as the text goes
on well. A text is readable exactly if the moves lead from its front to a state in which
nothing but placing a value is left, with no array or object open.
-/

namespace MessageGen.Json

/-- What the reading loop has before it. -/
structure Reading where
  task : Task
  stack : List Frame
  text : List Char

namespace Reading

/-- One move of the loop. -/
inductive Moves : Reading → Reading → Prop where
  | emptyArray {stack : List Frame} {text inside rest : List Char}
      (found : next? text = some ('[', inside)) (closed : next? inside = some (']', rest)) :
      Moves ⟨.value, stack, text⟩ ⟨.place (.array [] .closed), stack, rest⟩
  | openArray {stack : List Frame} {text inside rest : List Char} {first : Char}
      (found : next? text = some ('[', inside)) (goesOn : next? inside = some (first, rest))
      (nonempty : first ≠ ']') :
      Moves ⟨.value, stack, text⟩ ⟨.value, .array [] :: stack, inside⟩
  | emptyObject {stack : List Frame} {text inside rest : List Char}
      (found : next? text = some ('\x7b', inside)) (closed : next? inside = some ('\x7d', rest)) :
      Moves ⟨.value, stack, text⟩ ⟨.place (.object [] .closed), stack, rest⟩
  | openObject {stack : List Frame} {text inside rest : List Char} {first : Char}
      (found : next? text = some ('\x7b', inside)) (goesOn : next? inside = some (first, rest))
      (nonempty : first ≠ '\x7d') :
      Moves ⟨.value, stack, text⟩ ⟨.name [], stack, inside⟩
  | scalar {stack : List Frame} {text inside rest : List Char} {first : Char} {value : Outline}
      (found : next? text = some (first, inside)) (notArray : first ≠ '[')
      (notObject : first ≠ '\x7b') (scanned : scanScalar first inside = .done value rest) :
      Moves ⟨.value, stack, text⟩ ⟨.place value, stack, rest⟩
  | name {stack : List Frame} {text afterName rest : List Char} {name : Option String}
      {before : List (Option String × Outline)} {colon : Unit}
      (nameScanned : scanName text = .done name afterName)
      (colonScanned : scanColon afterName = .done colon rest) :
      Moves ⟨.name before, stack, text⟩ ⟨.value, .object before name :: stack, rest⟩
  | nextItem {stack : List Frame} {text rest : List Char} {value : Outline}
      {before : List Outline} (found : next? text = some (',', rest)) :
      Moves ⟨.place value, .array before :: stack, text⟩
        ⟨.value, .array (value :: before) :: stack, rest⟩
  | closeArray {stack : List Frame} {text rest : List Char} {value : Outline}
      {before : List Outline} (found : next? text = some (']', rest)) :
      Moves ⟨.place value, .array before :: stack, text⟩
        ⟨.place ((Frame.array before).finish value .closed), stack, rest⟩
  | nextEntry {stack : List Frame} {text rest : List Char} {value : Outline}
      {before : List (Option String × Outline)} {name : Option String}
      (found : next? text = some (',', rest)) :
      Moves ⟨.place value, .object before name :: stack, text⟩
        ⟨.name ((name, value) :: before), stack, rest⟩
  | closeObject {stack : List Frame} {text rest : List Char} {value : Outline}
      {before : List (Option String × Outline)} {name : Option String}
      (found : next? text = some ('\x7d', rest)) :
      Moves ⟨.place value, .object before name :: stack, text⟩
        ⟨.place ((Frame.object before name).finish value .closed), stack, rest⟩

/-- What the loop comes to. -/
def outcome (reading : Reading) : Outline × List Char :=
  readOn reading.task reading.stack reading.text

/-- The state in which a value is done. -/
def done (value : Outline) (text : List Char) : Reading :=
  ⟨.place value, [], text⟩

variable {first second : Reading}

theorem outcome_done (value : Outline) (text : List Char) :
    (done value text).outcome = (value, text) := by
  rw [outcome, done, readOn]

theorem outcome_eq_of_moves (moves : Moves first second) : first.outcome = second.outcome := by
  unfold outcome
  cases moves
  all_goals conv_lhs => rw [readOn]
  all_goals grind

theorem outcome_eq_of_reflTransGen (moves : Relation.ReflTransGen Moves first second) :
    first.outcome = second.outcome := by
  induction moves with
  | refl => rfl
  | tail _ last ih => exact ih.trans (outcome_eq_of_moves last)

theorem passOver_abandon {fault : Fault} {value : Outline} {stack : List Frame}
    (broken : value.passOver ≠ .ok ()) : (abandon fault value stack).passOver ≠ .ok () := by
  induction stack generalizing value with
  | nil => exact broken
  | cons frame stack ih =>
      apply ih
      cases frame <;> simp [Frame.finish, Outline.passOver]

/-- The loop gets to its end by moves unless a fault stops it. -/
theorem reflTransGen_done {task : Task} {stack : List Frame} {text : List Char}
    (readable : (readOn task stack text).1.passOver = .ok ()) :
    Relation.ReflTransGen Moves ⟨task, stack, text⟩
      (done (readOn task stack text).1 (readOn task stack text).2) := by
  -- A step that is no move leaves something open, which is not passed over.
  fun_induction readOn task stack text with
  | case1 => exact (passOver_abandon (by simp [Outline.passOver]) readable).elim
  | case2 => exact (passOver_abandon (by simp [Outline.passOver]) readable).elim
  | case3 stack text inside rest found closed ih =>
      exact .head (.emptyArray found closed) (ih readable)
  | case4 stack text inside second rest goesOn nonempty found ih =>
      exact .head (.openArray found goesOn nonempty) (ih readable)
  | case5 => exact (passOver_abandon (by simp [Outline.passOver]) readable).elim
  | case6 stack text inside rest found _ closed ih =>
      exact .head (.emptyObject found closed) (ih readable)
  | case7 stack text inside second rest goesOn nonempty found _ ih =>
      exact .head (.openObject found goesOn nonempty) (ih readable)
  | case8 stack text first inside found notArray notObject value rest scanned ih =>
      exact .head (.scalar found notArray notObject scanned) (ih readable)
  | case9 => exact (passOver_abandon (by simp [Outline.passOver]) readable).elim
  | case10 => exact (passOver_abandon (by simp [Outline.passOver]) readable).elim
  | case11 => exact (passOver_abandon (by simp [Frame.finish, Outline.passOver]) readable).elim
  | case12 stack text before name afterName nameScanned colon rest colonScanned ih =>
      exact .head (.name nameScanned colonScanned) (ih readable)
  | case13 => exact .refl
  | case14 text value frame stack found =>
      have broken : (frame.finish value (.broken .truncated)).passOver ≠ .ok () := by
        cases frame <;> simp [Frame.finish, Outline.passOver]
      exact (passOver_abandon broken readable).elim
  | case15 text value stack rest before found ih => exact .head (.nextItem found) (ih readable)
  | case16 text value stack rest before found _ ih => exact .head (.closeArray found) (ih readable)
  | case17 => exact (passOver_abandon (by simp [Frame.finish, Outline.passOver]) readable).elim
  | case18 text value stack rest before name found ih =>
      exact .head (.nextEntry found) (ih readable)
  | case19 text value stack rest before name found _ ih =>
      exact .head (.closeObject found) (ih readable)
  | case20 => exact (passOver_abandon (by simp [Frame.finish, Outline.passOver]) readable).elim

end Reading

end MessageGen.Json
