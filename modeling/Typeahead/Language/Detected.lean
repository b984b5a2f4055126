import Typeahead.Value

/-!
# Detected languages

A detector answers with a short code, and with a country and a variant when it
knows them. The language code of the answer joins the parts that are not empty
with hyphens. The parts are checked when the code is asked for.
-/

namespace Typeahead

/-- A detector's answer. -/
structure Detected where
  shortCode : Value
  country : Value := .text ""
  variant : Value := .text ""
  deriving Repr, Inhabited

namespace Detected

def of (shortCode country variant : String) : Detected :=
  ⟨.text shortCode, .text country, .text variant⟩

def equals (a b : Detected) : Bool :=
  a.shortCode == b.shortCode && a.country == b.country && a.variant == b.variant

/-- The parts that are not empty, in order. -/
def parts (d : Detected) : List Value :=
  [d.shortCode, d.country, d.variant].filter fun part => !part.isEmpty

def charsOf (part : Value) : Except Misfit (List Char) :=
  match part.text? with
  | some s => .ok s.toList
  | none => .error .notText

/-- The language code. All parts that are not empty have to be texts. -/
def code (d : Detected) : Except Misfit String :=
  (d.parts.mapM charsOf).map fun parts => String.ofList (List.intercalate ['-'] parts)

theorem mapM_charsOf_text (texts : List String) :
    (texts.map Value.text).mapM charsOf = .ok (texts.map String.toList) := by
  induction texts with
  | nil => rfl
  | cons text texts ih => rw [List.map_cons, List.mapM_cons, ih]; rfl

theorem parts_of (shortCode country variant : String) :
    (of shortCode country variant).parts =
      ([shortCode, country, variant].filter (· ≠ "")).map .text := by
  by_cases h₁ : shortCode = "" <;> by_cases h₂ : country = "" <;> by_cases h₃ : variant = "" <;>
    simp [parts, of, Value.isEmpty, h₁, h₂, h₃]

/-- The code of three texts joins those that are not empty. -/
theorem code_of (shortCode country variant : String) :
    (of shortCode country variant).code =
      .ok (String.ofList (List.intercalate ['-']
        (([shortCode, country, variant].filter (· ≠ "")).map String.toList))) := by
  rw [code, parts_of, mapM_charsOf_text]
  rfl

example : (of "ca" "ES" "valencia").code = .ok "ca-ES-valencia" := by rfl

def set (d : Detected) (name : String) (value : Value) : Except Misfit Detected :=
  match name with
  | "short_code" => .ok { d with shortCode := value }
  | "country" => .ok { d with country := value }
  | "variant" => .ok { d with variant := value }
  | other => .error (.unknownName other)

/-- An answer from a table of named parts, of which the short code is required. -/
def ofValue : Value → Except Misfit Detected
  | .table entries =>
    if (entries.lookup "short_code").isNone then .error (.missingName "short_code")
    else entries.foldlM (fun d entry => d.set entry.1 entry.2) (of "" "" "")
  | _ => .error .notTable

end Detected

end Typeahead
