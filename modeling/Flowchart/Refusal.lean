import Flowchart.Json.Decode

/-! # Refusals

The reasons for which a request about a chart or a machine is refused. A refused request changes
nothing.
-/

namespace Flowchart

/-- Why a request is refused. -/
inductive Refusal where
  /-- A name outside its closed set. -/
  | unknownName (name : UnknownName)
  /-- A depth that is not a whole number in range; the number as it is written. -/
  | badDepth (value : String)
  /-- A segment of a variable tag that gives no variable a value. -/
  | badTag (tag segment : String)
  /-- A machine or a style table whose text cannot be decoded. -/
  | json (problem : Json.Problem)
  deriving DecidableEq, Repr

/-- The refusal in words; a text that is not JSON is told from one that ends too early. -/
def Refusal.message : Refusal → String
  | unknownName name => name.message
  | badDepth value => "Invalid depth: " ++ value ++ " (expected a non-negative integer)"
  | badTag tag segment => "Invalid tag '" ++ tag ++ "': '" ++ segment ++ "' is not key=value"
  | json (.fault .cut) => "JSON error: the text ends too early"
  | json (.fault .malformed) => "JSON error: the text is malformed"
  | json (.data e) => "JSON error: " ++ e.message

/-- Reads a name of a closed set. -/
def parseKeyword (α : Type) [Keyword α] (text : String) : Except Refusal α :=
  (Keyword.parse α text).mapError .unknownName

theorem parseKeyword_eq_ok {α : Type} [Keyword α] {text : String} {m : α} :
    parseKeyword α text = .ok m ↔ Keyword.ofName? text = some m := by
  rw [← Keyword.parse_eq_ok_iff, parseKeyword]
  cases Keyword.parse α text with
  | error e => exact ⟨nofun, nofun⟩
  | ok a =>
    show (Except.ok a : Except Refusal α) = .ok m ↔ _
    rw [Except.ok.injEq, Except.ok.injEq]

theorem parseKeyword_eq_error {α : Type} [Keyword α] {text : String} {r : Refusal} :
    parseKeyword α text = .error r ↔
      (Keyword.ofName? text : Option α) = none ∧ r = .unknownName (Keyword.unknown α text) := by
  unfold parseKeyword Keyword.parse
  cases (Keyword.ofName? text : Option α) with
  | some m => exact ⟨nofun, nofun⟩
  | none =>
    show (Except.error (.unknownName (Keyword.unknown α text)) : Except Refusal α) = .error r ↔ _
    rw [Except.error.injEq]
    exact ⟨fun h => ⟨rfl, h.symm⟩, fun h => h.2.symm⟩

/-- Reads a name of a closed set where a name may be left out. -/
def parseKeyword? (α : Type) [Keyword α] : Option String → Except Refusal (Option α)
  | none => .ok none
  | some text => (parseKeyword α text).map some

/-! ## Steps that may fail -/

section Steps

variable {ε α β : Type} {x : Except ε α}

/-- Two steps succeed if the first does, and the second does with what the first gives. -/
theorem bind_eq_ok {f : α → Except ε β} {b : β} :
    x >>= f = .ok b ↔ ∃ a, x = .ok a ∧ f a = .ok b := by
  cases x with
  | error e => exact ⟨nofun, fun ⟨_, h, _⟩ => nomatch h⟩
  | ok a => exact ⟨fun h => ⟨a, rfl, h⟩, fun ⟨_, h, hf⟩ => by cases h; exact hf⟩

theorem exists_eq_ok_iff : (∃ a, x = .ok a) ↔ ∀ e, x ≠ .error e := by
  cases x <;> simp

theorem map_eq_ok {f : α → β} {b : β} : x.map f = .ok b ↔ ∃ a, x = .ok a ∧ f a = b := by
  cases x <;> simp [Except.map]

theorem map_eq_error {f : α → β} {e : ε} : x.map f = .error e ↔ x = .error e := by
  cases x <;> simp [Except.map]

end Steps

end Flowchart
