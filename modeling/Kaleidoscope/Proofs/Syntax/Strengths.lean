import Kaleidoscope.Proofs.Syntax.Precedence
import Kaleidoscope.Syntax.Program

/-!
# The precedences that are declared

A prototype is accepted only if its precedence is a positive finite number
(`Parse.yields_prototype`), whichever side of the name it stands on.
-/
namespace Kaleidoscope

/-- The precedence of a prototype, if it has any, is finite and positive. -/
def PrototypeKind.IsStrong (kind : PrototypeKind) : Prop :=
  ∀ precedence, kind = .binary precedence → precedence.isFinite = true ∧ 0 < precedence

namespace Parse

variable {α β : Type} {action : Parse α} {next : α → Parse β} {early : α → Prop} {late : β → Prop}

/-- Something holds of whatever an action yields. -/
def Yields (post : α → Prop) (action : Parse α) : Prop :=
  ∀ parser value last, action parser = .ok value last → post value

namespace Yields

/-- Yielding a value. -/
theorem pure {value : α} (holds : early value) : Yields early (pure value) := by
  intro parser found last done
  cases done
  exact holds

/-- Failing yields nothing. -/
theorem throw (error : ParseError) : Yields early (throw error : Parse α) := by
  intro parser found last done
  contradiction

/-- Failing at the current token yields nothing. -/
theorem failHere (cause : ParseCause) : Yields early (failHere cause : Parse α) := by
  intro parser found last done
  contradiction

/-- One action after another. -/
theorem bind (front : Yields early action)
    (back : ∀ value, early value → Yields late (next value)) : Yields late (action >>= next) := by
  intro parser value last done
  change EStateM.bind action next parser = _ at done
  unfold EStateM.bind at done
  cases first : action parser with
  | ok found middle =>
    rw [first] at done
    exact back found (front _ _ _ first) _ _ _ done
  | error error middle =>
    rw [first] at done
    contradiction

/-- One action after another of which nothing is known. -/
theorem after (back : ∀ value, Yields late (next value)) : Yields late (action >>= next) := by
  have front : Yields (fun _ => True) action := fun _ _ _ _ => trivial
  exact front.bind fun value _ => back value

end Yields

/-- A precedence is finite and positive. -/
theorem yields_expectPrecedence :
    Yields (fun value => value.isFinite = true ∧ 0 < value) expectPrecedence := by
  refine .after fun token => ?_
  split
  · refine .after fun found => ?_
    obtain ⟨value, span⟩ := found
    simp only
    split
    · next strong =>
      rw [Bool.and_eq_true, decide_eq_true_eq] at strong
      exact .pure strong
    · exact .throw _
  · exact .failHere _

/-- What a prototype introduces has no precedence or a strong one. -/
theorem yields_prototypeHead : Yields (fun head => head.2.IsStrong) prototypeHead := by
  refine .after fun token => ?_
  have binary : ∀ {value : Float}, value.isFinite = true ∧ 0 < value →
      (PrototypeKind.binary value).IsStrong := by
    intro value strong precedence same
    cases same
    exact strong
  split
  · exact .after fun _ => .after fun _ => .pure fun precedence other => by contradiction
  · refine .after fun _ => .after fun leads => ?_
    split
    · exact yields_expectPrecedence.bind fun _ strong => .after fun _ => .pure (binary strong)
    · exact .after fun _ => yields_expectPrecedence.bind fun _ strong => .pure (binary strong)
  · exact .after fun _ => .pure fun precedence other => by contradiction

/-- A prototype has no precedence or a strong one. -/
theorem yields_prototype : Yields (fun signature => signature.kind.IsStrong) prototype := by
  refine .after fun start => yields_prototypeHead.bind fun head strong => ?_
  refine .after fun _ => .after fun _ => .after fun names => .after fun close => ?_
  obtain ⟨name, kind⟩ := head
  simp only
  split
  · exact .throw _
  · exact .after fun _ => .pure strong

end Parse

namespace OperatorTable

/-- A table of operators that parsing leads to: the table of a new session, and the one after any
source that is read with such a table, malformed statements included. -/
inductive IsParsed : OperatorTable → Prop
  /-- The table of a new session. -/
  | empty : IsParsed empty
  /-- The table after a source. -/
  | parse {operators : OperatorTable} {source : String} {tokens : List Token}
      (earlier : IsParsed operators) (scanned : Token.scan source = .ok tokens) :
      IsParsed (Program.ofTokens tokens operators).2

/-- A table is parsed if a source declares just its operators in a new session. -/
theorem IsParsed.of_source {table : OperatorTable} (source : String)
    (declared : (Token.scan source).toOption.map (fun tokens =>
        ((Program.ofTokens tokens .empty).2.binary, (Program.ofTokens tokens .empty).2.unary)) =
      some (table.binary, table.unary)) : table.IsParsed := by
  cases scanned : Token.scan source with
  | error error =>
    rw [scanned] at declared
    contradiction
  | ok tokens =>
    rw [scanned] at declared
    have after := IsParsed.parse .empty scanned
    obtain ⟨binary, unary⟩ := table
    obtain ⟨rfl, rfl⟩ := Prod.mk.inj (Option.some.inj declared)
    exact after

end OperatorTable

end Kaleidoscope
