import Typeahead.Proofs.Workspace.Completion

/-!
# Where requests look for a word

A request looks for a word before a cursor that lies in the code of the fragment that
was found. Main statement: `complete_scanning_inside`. What is found is the innermost
fragment, the cursor in it is never outside its code, and so a request does not depend
on what looking for a word does outside a text.
-/

namespace Typeahead.Workspace

open Typeahead.Fragment

variable {σ : Type}

/-! ## Requests with another scan -/

/-- Inside a text, the scan gives the longest run of word characters before the cursor.
Nothing is said of a cursor elsewhere, nor of other values. -/
def ScansInside (scan : Value → Value → Except Fault Value) : Prop :=
  ∀ (code : String) (cursor : Int), 0 ≤ cursor → cursor < code.toList.length →
    scan (.text code) (.int cursor) =
      .ok (.text (String.ofList (wordAtEnd (code.toList.take cursor.toNat))))

def candidatesFor (cache : Nat) (fragment : Draft) (language word : Value) :
    Action (Workspace σ) (List String) :=
  if word.isEmpty then return []
  else do
    let listed ← wordsOf cache language
    if listed = [] ∧ fragment.settings.dictionary.isEmpty then return []
    let own ← Action.ofExcept (startingAmong word fragment.settings.dictionary)
    let found := own ++ (← Action.ofExcept (startingAmong word (listed.map .text)))
    Action.log .debug .engine
      (toString found.length ++ " candidates for " ++ word.quoted ++ " (" ++
        (language.text?.getD "") ++ ")")
    return found

def completeInScanning (scan : Value → Value → Except Fault Value) (engine : Engine)
    (doc : Document) (fragment : Draft) (cursor : Value) : Action (Workspace σ) (List String) := do
  match ← recognize engine doc fragment with
  | none =>
    Action.log .debug .engine
      ("Language of fragment at " ++ toString (fragment.start.truncated?.getD 0) ++ " is unknown")
    return []
  | some language =>
    let word ← Action.ofExcept (scan fragment.code cursor)
    candidatesFor engine.cache fragment language word

/-- A completion request in which a given scan looks for the word. -/
def completeScanning (scan : Value → Value → Except Fault Value) (engine : Engine)
    (doc : Document) (position : Position) : Action (Workspace σ) (List String) := do
  let offset ← Action.ofExcept ((doc.offsetAt position).mapError .coordinate)
  let fragments ← fragmentize doc
  match ← Action.ofExcept ((Draft.locate fragments (.int offset)).mapError .misfit) with
  | none =>
    Action.log .debug .engine ("No fragment at offset " ++ toString offset)
    return []
  | some (fragment, cursor) => completeInScanning scan engine doc fragment cursor

theorem completeInScanning_wordIn (engine : Engine) (doc : Document) (fragment : Draft)
    (cursor : Value) :
    (completeInScanning wordIn engine doc fragment cursor : Action (Workspace σ) _) =
      completeIn engine doc fragment cursor := by
  rw [completeIn_eq]
  rfl

theorem completeScanning_wordIn (engine : Engine) (doc : Document) (position : Position) :
    (completeScanning wordIn engine doc position : Action (Workspace σ) _) =
      complete engine doc position := by
  refine bind_congr fun offset => bind_congr fun fragments => bind_congr fun found? => ?_
  cases found? with
  | none => rfl
  | some found => exact completeInScanning_wordIn engine doc found.1 found.2

/-! ## Cursors of requests -/

/-- In a fragment that covers the offset, the cursor is inside the code. -/
theorem ScansInside.eq_wordIn {scan : Value → Value → Except Fault Value} (h : ScansInside scan)
    {f : Fragment} {offset : Int} (hcovers : f.contains offset = true) :
    scan f.draft.code (.int (offset - f.start)) =
      wordIn f.draft.code (.int (offset - f.start)) := by
  obtain ⟨hzero, hlength⟩ := cursor_of_contains hcovers
  have hscan := h f.code (offset - f.start) hzero hlength
  show scan (.text f.code) _ = wordIn (.text f.code) _
  rw [hscan, wordIn_text, wordBefore, wordBeforeChars, if_neg (by omega)]

/-- A request looks for a word only before its cursor in the fragment that was found. -/
theorem completeScanning_congr {scan scan' : Value → Value → Except Fault Value}
    (engine : Engine) (doc : Document) (position : Position) {w : Workspace σ}
    (h : ∀ (offset : Nat) (drafts : List Draft), doc.offsetAt position = .ok offset →
      (fragmentize doc w).result = .ok drafts →
      ∃ fragments : List Fragment, drafts = fragments.map Fragment.draft ∧
        ∀ f ∈ fragments, f.contains offset = true →
          scan f.draft.code (.int (offset - f.start)) =
            scan' f.draft.code (.int (offset - f.start))) :
    completeScanning scan engine doc position w =
      completeScanning scan' engine doc position w := by
  refine Action.bind_congr_of_ok fun offset hoffset =>
    Action.bind_congr_of_ok fun drafts hdrafts => ?_
  obtain ⟨fragments, rfl, hscan⟩ := h offset drafts (of_mapError_eq_ok hoffset) hdrafts
  refine Action.bind_congr_of_ok fun found? hfound => ?_
  cases found? with
  | none => rfl
  | some found =>
      obtain ⟨f, hmem, hcovers, hdraft, hcursor⟩ :=
        exists_of_locate_draft (of_mapError_eq_ok hfound)
      show completeInScanning scan _ _ found.1 found.2 _ =
        completeInScanning scan' _ _ found.1 found.2 _
      rw [hdraft, hcursor, completeInScanning, completeInScanning, hscan f hmem hcovers]

/-- **A request looks for a word inside the code of the fragment that was found.** What
the scan does outside a text changes neither what the request ends in nor what it leaves
behind. -/
theorem completeScanning_eq {scan : Value → Value → Except Fault Value} (h : ScansInside scan)
    (engine : Engine) (doc : Document) (position : Position) {w : Workspace σ}
    (hsplit : ∀ drafts, (fragmentize doc w).result = .ok drafts →
      ∃ fragments : List Fragment, drafts = fragments.map Fragment.draft) :
    completeScanning scan engine doc position w = complete engine doc position w := by
  rw [← completeScanning_wordIn]
  refine completeScanning_congr engine doc position fun offset drafts _ hdrafts => ?_
  obtain ⟨fragments, hfragments⟩ := hsplit drafts hdrafts
  exact ⟨fragments, hfragments, fun f _ hcovers => h.eq_wordIn hcovers⟩

/-- **What is found and scanned.** Among drafts of fragments, none is found exactly when
none covers the offset. Otherwise the innermost one is found, and the cursor in it lies
inside its code. So, where a document is split into fragments or not at all, a completion
request does not depend on what its scan does outside a text. -/
theorem complete_scanning_inside (σ : Type) :
    (∀ (fragments : List Fragment) (offset : Int),
      (Draft.locate (fragments.map draft) (.int offset) = .ok none ↔
        ∀ f ∈ fragments, f.draft.contains (.int offset) = .ok false) ∧
      ((∃ f ∈ fragments, f.draft.contains (.int offset) = .ok true) →
        ∃ i f, IsInnermost fragments offset i f ∧
          Draft.locate (fragments.map draft) (.int offset) =
            .ok (some (f.draft, .int (offset - f.start))) ∧
          0 ≤ offset - f.start ∧ offset - f.start < f.code.toList.length)) ∧
    ∀ (scan : Value → Value → Except Fault Value) (engine : Engine) (doc : Document)
      (position : Position) (w : Workspace σ), ScansInside scan →
      (∀ drafts, (fragmentize doc w).result = .ok drafts →
        ∃ fragments : List Fragment, drafts = fragments.map draft) →
      completeScanning scan engine doc position w = complete engine doc position w := by
  refine ⟨fun fragments offset => ⟨locate_draft_eq_none_iff, ?_⟩, ?_⟩
  · rintro ⟨g, hg, hcovers⟩
    obtain ⟨i, f, hf, hlocate⟩ := exists_locate_draft hg (contains_draft_iff.mp hcovers)
    exact ⟨i, f, hf, hlocate, cursor_of_contains hf.covers⟩
  · intro scan engine doc position w hscan hsplit
    exact completeScanning_eq hscan engine doc position hsplit

def scanOrFault : Value → Value → Except Fault Value
  | .text code, .int cursor =>
    if 0 ≤ cursor ∧ cursor < code.toList.length then
      .ok (.text (String.ofList (wordAtEnd (code.toList.take cursor.toNat))))
    else .error (.noItem cursor)
  | _, _ => .error .notAWord

theorem scansInside_scanOrFault : ScansInside scanOrFault :=
  fun _ _ hzero hlength => if_pos ⟨hzero, hlength⟩

/-- Three fragments cover the offset, and two of them start together. -/
theorem complete_scanning_inside_overlapping :
    let settings := Settings.of "en" ["triangle"]
    let fragments : List Fragment := [⟨.text plaintext, "a tri x", 0, settings⟩,
      ⟨.text plaintext, "tri", 2, settings⟩, ⟨.text plaintext, "tri x", 2, settings⟩]
    let splitter : Fragmentizer Unit := .custom fun _ _ => Host.pure (fragments.map draft)
    let w : Workspace Unit :=
      { bundled := "lists", surroundings := { host := () },
        fragmentizers := Fragmentizer.initial.register (.text plaintext) (Host.pure splitter) }
    let doc : Document := ⟨"a tri x", .text plaintext, settings⟩
    ScansInside scanOrFault ∧
    (∀ drafts, (fragmentize doc w).result = .ok drafts →
      ∃ fragments : List Fragment, drafts = fragments.map draft) ∧
    (∃ f ∈ fragments, f.draft.contains (.int 4) = .ok true) ∧
    (∃ i f, IsInnermost fragments 4 i f ∧
      Draft.locate (fragments.map draft) (.int 4) = .ok (some (f.draft, .int (4 - f.start)))) ∧
    completeScanning scanOrFault ⟨0, 0⟩ doc (Position.of 0 4) w =
      complete ⟨0, 0⟩ doc (Position.of 0 4) w := by
  intro settings fragments splitter w doc
  have hsplit : ∀ drafts, (fragmentize doc w).result = .ok drafts →
      ∃ fragments : List Fragment, drafts = fragments.map draft := by
    intro drafts hdrafts
    exact ⟨fragments, (Except.ok.inj hdrafts).symm⟩
  have hcovered : ∃ f ∈ fragments, f.draft.contains (.int 4) = .ok true :=
    ⟨_, List.mem_cons_self, contains_draft_iff.mpr (by simp [contains, stop])⟩
  obtain ⟨hlocate, hcomplete⟩ := complete_scanning_inside Unit
  obtain ⟨i, f, hf, hfound, -⟩ := (hlocate fragments 4).2 hcovered
  exact ⟨scansInside_scanOrFault, hsplit, hcovered, ⟨i, f, hf, hfound⟩,
    hcomplete scanOrFault ⟨0, 0⟩ doc (Position.of 0 4) w scansInside_scanOrFault hsplit⟩

end Typeahead.Workspace
