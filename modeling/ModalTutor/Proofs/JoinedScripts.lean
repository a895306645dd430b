import ModalTutor.Proofs.KeyNotation

/-!
# Scripts in a row

A script that can be read ends between two keys, so whatever is appended to it
is read as if it stood alone, only from a later offset.  A name that no key has
is found before anything behind it is looked at.
-/

namespace ModalTutor

namespace KeyScriptError

/-- The error as it is reported behind a text of so many bytes. -/
def behind (bytes : Nat) : KeyScriptError → KeyScriptError
  | unterminated offset => unterminated (offset + bytes)
  | unknownKey name => unknownKey name

end KeyScriptError

namespace KeyScript

def Place.behind (bytes : Nat) : Place → Place
  | between => between
  | inside opened name => inside (opened + bytes) name

theorem parseFrom_closing (offset opened : Nat) (name rest : Text) :
    parseFrom offset (.inside opened name) ('>' :: rest) =
      (named name).bind fun key =>
        (parseFrom (offset + 1) .between rest).map (key :: ·) := by
  have unclosed : '>' ∉ ([] : Text) := List.not_mem_nil
  have bare := parseFrom_name unclosed offset opened name rest
  rwa [List.append_nil] at bare

theorem eq_unknownKey_of_named {body : Text} {error : KeyScriptError}
    (failed : named body = .error error) : error = .unknownKey body := by
  unfold named at failed
  dsimp only at failed
  split at failed
  · cases failed
  · split at failed
    · split at failed
      · cases failed
        rfl
      · cases failed
    · cases failed
      rfl

/-- Only the offsets of errors depend on where a text begins. -/
theorem parseFrom_behind (bytes offset : Nat) (place : Place) (text : Text) :
    parseFrom (offset + bytes) (place.behind bytes) text =
      (parseFrom offset place text).mapError (·.behind bytes) := by
  fun_induction parseFrom offset place text with
  | case1 => rfl
  | case2 => rfl
  | case3 offset rest ih =>
      rw [← ih, Place.behind, parseFrom, Place.behind, Nat.add_right_comm]
  | case4 offset character rest unopened ih =>
      rw [Place.behind, parseFrom_character _ unopened, Nat.add_right_comm]
      rw [Place.behind] at ih
      rw [ih]
      cases parseFrom (offset + character.utf8Size) .between rest <;> rfl
  | case5 offset opened name rest ih =>
      rw [Place.behind, parseFrom_closing, Nat.add_right_comm]
      rw [Place.behind] at ih
      rw [ih]
      cases read : named name with
      | error error =>
          rw [eq_unknownKey_of_named read]
          rfl
      | ok key =>
          cases parseFrom (offset + 1) .between rest <;> rfl
  | case6 offset opened name character rest other ih =>
      rw [← ih, Place.behind, parseFrom, Place.behind, Nat.add_right_comm]
      exact other

theorem map_cons_bind_append (read : Except KeyScriptError (List Key))
    (later : Except KeyScriptError (List Key)) (key : Key) :
    (read.bind fun keys => later.map (keys ++ ·)).map (key :: ·) =
      (read.map (key :: ·)).bind fun keys => later.map (keys ++ ·) := by
  cases read with
  | error error => rfl
  | ok keys => cases later <;> rfl

/-- A text that leaves no bracket open is read as without what is appended, and
the reader then stands between two keys. -/
theorem parseFrom_append {offset : Nat} {place : Place} {first : Text}
    (closed : ∀ opened,
      parseFrom offset place first ≠ .error (.unterminated opened))
    (second : Text) :
    parseFrom offset place (first ++ second) =
      (parseFrom offset place first).bind fun keys =>
        (parseFrom (offset + Line.byteLength first) .between second).map
          (keys ++ ·) := by
  fun_induction parseFrom offset place first with
  | case1 offset =>
      cases later : parseFrom offset .between second <;>
        simp [Line.byteLength, later, Except.map, Except.bind]
  | case2 offset opened name => exact absurd rfl (closed opened)
  | case3 offset rest ih =>
      have one : '<'.utf8Size = 1 := by decide
      rw [List.cons_append, parseFrom, ih closed, Line.byteLength, one,
        Nat.add_assoc]
  | case4 offset character rest unopened ih =>
      have closedLater : ∀ opened,
          parseFrom (offset + character.utf8Size) .between rest ≠
            .error (.unterminated opened) := by
        intro opened failed
        apply closed opened
        rw [failed]
        rfl
      rw [List.cons_append, parseFrom_character _ unopened, ih closedLater,
        map_cons_bind_append, Line.byteLength, Nat.add_assoc]
      rfl
  | case5 offset opened name rest ih =>
      rw [List.cons_append, parseFrom_closing]
      cases read : named name with
      | error error => rfl
      | ok key =>
          have one : '>'.utf8Size = 1 := by decide
          have closedLater : ∀ opened,
              parseFrom (offset + 1) .between rest ≠
                .error (.unterminated opened) := by
            intro opened failed
            apply closed opened
            rw [read, failed]
            rfl
          rw [ih closedLater, Line.byteLength, one, ← Nat.add_assoc]
          exact map_cons_bind_append _ _ key
  | case6 offset opened name character rest other ih =>
      rw [List.cons_append, parseFrom, ih closed, Line.byteLength,
        Nat.add_assoc]
      exact other

/-- What is read of a script in two parts, the first of which leaves no bracket
open. -/
theorem parse_append {first : Text}
    (closed : ∀ opened, parse first ≠ .error (.unterminated opened))
    (second : Text) :
    parse (first ++ second) = (parse first).bind fun keys =>
      ((parse second).mapError (·.behind (Line.byteLength first))).map
        (keys ++ ·) := by
  rw [parse, parseFrom_append closed, parse, parse, ← parseFrom_behind]
  rfl

/-- A script in two parts gives the keys of both, or the first error: if the
first part can be read, the error of the second one with its offset counted
from the beginning of the whole, and a name that no key has in the first part
whatever comes behind it. -/
theorem parse_of_parts (first second : Text) :
    (∀ keys, parse first = .ok keys →
      (∀ later, parse second = .ok later →
        parse (first ++ second) = .ok (keys ++ later)) ∧
      (∀ offset, parse second = .error (.unterminated offset) →
        parse (first ++ second) =
          .error (.unterminated (offset + Line.byteLength first))) ∧
      ∀ name, parse second = .error (.unknownKey name) →
        parse (first ++ second) = .error (.unknownKey name)) ∧
    ∀ name, parse first = .error (.unknownKey name) →
      parse (first ++ second) = .error (.unknownKey name) := by
  constructor
  · intro keys parsed
    have closed : ∀ opened, parse first ≠ .error (.unterminated opened) := by
      simp [parsed]
    have joined := parse_append closed second
    rw [parsed] at joined
    refine ⟨?_, ?_, ?_⟩
    · intro later read
      rw [joined, read]
      rfl
    · intro offset failed
      rw [joined, failed]
      rfl
    · intro name failed
      rw [joined, failed]
      rfl
  · intro name failed
    have closed : ∀ opened, parse first ≠ .error (.unterminated opened) := by
      simp [failed]
    rw [parse_append closed, failed]
    rfl

/-- Behind a character of two bytes: a key, a bracket that stays open and a name
that no key has. -/
theorem parse_of_parts_behind_wide_character :
    let first := ['é', '<', 'C', '-', 'r', '>']
    let keys : List Key := [.char 'é', ⟨.char 'r', ⟨true, false, false⟩⟩]
    let opening := ['>', '<', 'E']
    let unknown := ['<', 'N', 'o', '>']
    parse first = .ok keys ∧
    (parse ['d'] = .ok [.char 'd'] ∧
      parse (first ++ ['d']) = .ok (keys ++ [.char 'd'])) ∧
    (parse opening = .error (.unterminated 1) ∧
      parse (first ++ opening) = .error (.unterminated 8)) ∧
    parse unknown = .error (.unknownKey ['N', 'o']) ∧
      parse (first ++ unknown) = .error (.unknownKey ['N', 'o']) ∧
      parse (unknown ++ opening) = .error (.unknownKey ['N', 'o']) := by
  intro first keys opening unknown
  have parsed : parse first = .ok keys := rfl
  have typed : parse ['d'] = .ok [.char 'd'] := rfl
  have unclosed : parse opening = .error (.unterminated 1) := rfl
  have failed : parse unknown = .error (.unknownKey ['N', 'o']) := rfl
  have behind (second : Text) := (parse_of_parts first second).1 keys parsed
  exact ⟨parsed, ⟨typed, (behind ['d']).1 _ typed⟩,
    ⟨unclosed, (behind opening).2.1 1 unclosed⟩,
    failed, (behind unknown).2.2 _ failed,
    (parse_of_parts unknown opening).2 _ failed⟩

end KeyScript

end ModalTutor
