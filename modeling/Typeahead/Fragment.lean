import Typeahead.Config
import Typeahead.Value

/-!
# Fragments

A fragment is a span of a document in one markup dialect. Fragments may nest,
overlap or be empty. The fragment at an offset is the innermost one that
covers it: the one that starts last, and of those that start together the
first in the list.
-/

namespace Typeahead

/-- A span of a document, from `start` on. -/
structure Fragment where
  /-- The markup dialect, which selects the builder of its plain text. Nobody
  has checked it yet. -/
  languageId : Value
  /-- The text of the span as it stands in the document. -/
  code : String
  /-- The offset of its first character. -/
  start : Int
  settings : Settings := {}
  deriving Repr, Inhabited

namespace Fragment

/-- The offset behind the last character. -/
def stop (f : Fragment) : Int :=
  f.start + f.code.toList.length

def contains (f : Fragment) (offset : Int) : Bool :=
  f.start ≤ offset && offset < f.stop

theorem contains_iff {f : Fragment} {offset : Int} :
    f.contains offset = true ↔ f.start ≤ offset ∧ offset < f.stop := by
  simp [contains]

/-- The better of the best fragment so far and one more. -/
def inner (offset : Int) (best? : Option Fragment) (f : Fragment) : Option Fragment :=
  if f.contains offset then
    match best? with
    | none => some f
    | some best => if best.start < f.start then some f else some best
  else best?

def innermost (fragments : List Fragment) (offset : Int) : Option Fragment :=
  fragments.foldl (inner offset) none

/-- The innermost fragment that covers an offset, and the offset counted from
its start. -/
def locate (fragments : List Fragment) (offset : Int) : Option (Fragment × Int) :=
  (innermost fragments offset).map fun f => (f, offset - f.start)

end Fragment

/-! ## Drafts

Collaborators hand over drafts of fragments, whose parts nobody has checked.
Looking for the draft at an offset checks the starts of all of them, and the
code of those that start in time. Among drafts that are fragments, the one that
is found is the one that `Fragment.locate` finds.
-/

/-- A fragment as it was handed over. -/
structure Draft where
  languageId : Value
  /-- The text of the span, for all that is known. -/
  code : Value
  /-- The offset of the first character, for all that is known. -/
  start : Value
  settings : Settings := {}
  deriving Repr, Inhabited

def Fragment.draft (f : Fragment) : Draft :=
  ⟨f.languageId, .text f.code, .int f.start, f.settings⟩

namespace Draft

def equals (a b : Draft) : Bool :=
  a.languageId.equals b.languageId && a.code.equals b.code && a.start.equals b.start &&
    a.settings.equals b.settings

def stop (d : Draft) : Except Misfit Value := do
  d.start.plus (.int (← d.code.size))

/-- Whether the draft covers an offset. Its code is looked at only if it starts in time. -/
def contains (d : Draft) (offset : Value) : Except Misfit Bool := do
  if ← d.start.isAtMost offset then offset.isBelow (← d.stop) else return false

def inner (offset : Value) (best? : Option Draft) (d : Draft) : Except Misfit (Option Draft) := do
  if ← d.contains offset then
    match best? with
    | none => return some d
    | some best => return some (if ← best.start.isBelow d.start then d else best)
  else return best?

def locate (drafts : List Draft) (offset : Value) : Except Misfit (Option (Draft × Value)) := do
  match ← drafts.foldlM (inner offset) none with
  | none => return none
  | some d => return some (d, ← offset.minus d.start)

/-! ## Drafts that are fragments -/

theorem contains_draft (f : Fragment) (offset : Int) :
    f.draft.contains (.int offset) = .ok (f.contains offset) := by
  by_cases h : f.start ≤ offset <;>
    simp [contains, stop, Fragment.draft, Fragment.contains, Fragment.stop, h, bind, Except.bind,
      pure, Except.pure]
  rfl

theorem inner_draft (offset : Int) (best? : Option Fragment) (f : Fragment) :
    inner (.int offset) (best?.map Fragment.draft) f.draft =
      .ok ((Fragment.inner offset best? f).map Fragment.draft) := by
  unfold inner
  rw [contains_draft]
  cases h : f.contains offset
  · simp [Fragment.inner, h, bind, Except.bind, pure, Except.pure]
  · cases best? with
    | none => simp [Fragment.inner, h, bind, Except.bind, pure, Except.pure]
    | some best =>
      by_cases hlt : best.start < f.start <;>
        simp [Fragment.inner, Fragment.draft, h, hlt, bind, Except.bind, pure, Except.pure]

theorem foldlM_inner_draft (offset : Int) (fragments : List Fragment) (best? : Option Fragment) :
    (fragments.map Fragment.draft).foldlM (inner (.int offset)) (best?.map Fragment.draft) =
      .ok ((fragments.foldl (Fragment.inner offset) best?).map Fragment.draft) := by
  induction fragments generalizing best? with
  | nil => rfl
  | cons f fragments ih =>
    rw [List.map_cons, List.foldlM_cons, inner_draft]
    exact ih _

/-- Among drafts that are fragments, the innermost one is found. -/
theorem locate_draft (fragments : List Fragment) (offset : Int) :
    locate (fragments.map Fragment.draft) (.int offset) =
      .ok ((Fragment.locate fragments offset).map fun found => (found.1.draft, .int found.2)) := by
  have h := foldlM_inner_draft offset fragments none
  rw [Option.map_none] at h
  rw [locate, h, Fragment.locate, Fragment.innermost]
  cases fragments.foldl (Fragment.inner offset) none <;> rfl

end Draft

end Typeahead
