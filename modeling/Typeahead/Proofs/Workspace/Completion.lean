import Typeahead.Proofs.Document.Offset
import Typeahead.Proofs.Fragment.Locate
import Typeahead.Proofs.Word
import Typeahead.Proofs.Workspace.Lists
import Typeahead.Proofs.Workspace.Stages

/-!
# What a request returns

The candidates of a completion request, said by what its stages give: the
fragment at the offset, its language, the word before the cursor, the words of
its dictionary and those of the language's list. Main statement: `result_complete`.
-/

namespace Typeahead.Workspace

open Typeahead.Resource

variable {σ : Type}

/-! ## From the offset to the candidates -/

theorem result_complete_of_uncovered {engine : Engine} {doc : Document} {position : Position}
    {w : Workspace σ} {o : Nat} {fragments : List Fragment}
    (hoffset : doc.offsetAt position = .ok o)
    (hsplit : (fragmentize doc w).result = .ok (fragments.map Fragment.draft))
    (hnone : Fragment.locate fragments o = none) :
    (complete engine doc position w).result = .ok [] := by
  have hlocate := Draft.locate_draft fragments o
  rw [hnone] at hlocate
  rw [complete, hoffset, Action.result_bind_of_ok (a := o) rfl, Action.ofExcept_apply,
    Action.result_bind_of_ok hsplit, hlocate, Action.result_bind_of_ok (a := none) rfl]
  rfl

def found? (w : Workspace σ) (doc : Document) (o : Nat) : Option (Draft × Value) :=
  match (fragmentize doc w).result with
  | .error _ => none
  | .ok drafts =>
    match Draft.locate drafts (.int o) with
    | .error _ => none
    | .ok found? => found?

/-- Among fragments, the innermost one that covers the offset is found. -/
theorem found?_of_split {doc : Document} {w : Workspace σ} {fragments : List Fragment}
    (hsplit : (fragmentize doc w).result = .ok (fragments.map Fragment.draft)) (o : Nat) :
    w.found? doc o =
      (Fragment.locate fragments o).map fun found => (found.1.draft, .int found.2) := by
  rw [found?, hsplit]
  simp only
  rw [Draft.locate_draft]

theorem complete_of_found {engine : Engine} {doc : Document} {position : Position}
    {w : Workspace σ} {o : Nat} {draft : Draft} {cursor : Value}
    (hoffset : doc.offsetAt position = .ok o) (hfound : w.found? doc o = some (draft, cursor)) :
    complete engine doc position w =
      ⟨(completeIn engine doc draft cursor (fragmentize doc w).state).result,
        (completeIn engine doc draft cursor (fragmentize doc w).state).state,
        (fragmentize doc w).events ++
          (completeIn engine doc draft cursor (fragmentize doc w).state).events⟩ := by
  rw [found?] at hfound
  cases hsplit : (fragmentize doc w).result with
  | error fault =>
      rw [hsplit] at hfound
      cases hfound
  | ok drafts =>
      rw [hsplit] at hfound
      cases hlocate : Draft.locate drafts (.int o) with
      | error misfit =>
          simp only [hlocate] at hfound
          cases hfound
      | ok found? =>
          simp only [hlocate] at hfound
          subst hfound
          rw [complete, hoffset]
          show (fragmentize doc >>= _) w = _
          rw [Action.bind_of_ok hsplit, hlocate]
          rfl

theorem result_complete_of_found {engine : Engine} {doc : Document} {position : Position}
    {w : Workspace σ} {o : Nat} {draft : Draft} {cursor : Value}
    (hoffset : doc.offsetAt position = .ok o) (hfound : w.found? doc o = some (draft, cursor)) :
    (complete engine doc position w).result =
      (completeIn engine doc draft cursor (fragmentize doc w).state).result := by
  rw [complete_of_found hoffset hfound]

theorem result_complete_of_located {engine : Engine} {doc : Document} {position : Position}
    {w : Workspace σ} {o : Nat} {fragments : List Fragment} {f : Fragment} {cursor : Int}
    (hoffset : doc.offsetAt position = .ok o)
    (hsplit : (fragmentize doc w).result = .ok (fragments.map Fragment.draft))
    (hlocated : Fragment.locate fragments o = some (f, cursor)) :
    (complete engine doc position w).result =
      (completeIn engine doc f.draft (.int cursor) (fragmentize doc w).state).result := by
  refine result_complete_of_found hoffset ?_
  rw [found?_of_split hsplit, hlocated]
  rfl

/-- The language is recognised before anything else is done with a fragment. -/
theorem completeIn_eq (engine : Engine) (doc : Document) (fragment : Draft) (cursor : Value) :
    (completeIn engine doc fragment cursor : Action (Workspace σ) _) =
      recognize engine doc fragment >>= fun language? =>
        match language? with
        | none => do
          Action.log .debug .engine ("Language of fragment at " ++
            toString (fragment.start.truncated?.getD 0) ++ " is unknown")
          return []
        | some language => candidates engine.cache fragment cursor language := by
  unfold completeIn recognize
  exact (bind_assoc _ _ _).symm

theorem result_completeIn_of_unknown {engine : Engine} {doc : Document} {fragment : Draft}
    {cursor : Value} {w : Workspace σ}
    (h : (recognize engine doc fragment w).result = .ok none) :
    (completeIn engine doc fragment cursor w).result = .ok [] := by
  rw [completeIn_eq, Action.result_bind_of_ok h]
  rfl

theorem result_completeIn_of_known {engine : Engine} {doc : Document} {fragment : Draft}
    {cursor language : Value} {w : Workspace σ}
    (h : (recognize engine doc fragment w).result = .ok (some language)) :
    (completeIn engine doc fragment cursor w).result =
      (candidates engine.cache fragment cursor language
        (recognize engine doc fragment w).state).result := by
  rw [completeIn_eq, Action.result_bind_of_ok h]

/-! ## Candidates -/

def listedNow (w : Workspace σ) (cache : Nat) (language : Value) : Except Fault (List String) :=
  match language.text? with
  | some code => (w.caches.row cache).listNow w.config code w.surroundings
  | none => .error (.misfit .notText)

/-- One cache over one steady loader has one list for each language. -/
theorem listedNow_eq {w w' : Workspace σ} {cache cache' : Nat}
    (hconfig : w'.config = w.config) (hcache : w'.caches.row cache' = w.caches.row cache)
    (hsteady : (w.caches.row cache).loader.Steady w.surroundings)
    (hshelves : w.surroundings.SameShelves w'.surroundings) (language : Value) :
    w'.listedNow cache' language = w.listedNow cache language := by
  unfold listedNow
  cases language.text? with
  | none => rfl
  | some code =>
      rw [hcache, hconfig]
      exact Cache.listNow_of_steady hsteady hshelves code

/-- The words of a dictionary and then those of a list that start with a word. The
list is looked at only if there is a word. -/
def candidatesOf (word : Value) (dictionary : List Value) (listed : Except Fault (List String)) :
    Except Fault (List String) :=
  if word.isEmpty then .ok []
  else do
    let list ← listed
    let own ← startingAmong word dictionary
    let others ← startingAmong word (list.map .text)
    return own ++ others

theorem result_wordsOf (cache : Nat) (language : Value) (w : Workspace σ) :
    (wordsOf cache language w).result = w.listedNow cache language := by
  unfold wordsOf listedNow
  cases language.text? with
  | none => rfl
  | some code => exact result_words cache code w

/-- **The candidates for a cursor** in a fragment of a language. -/
theorem result_candidates_eq (cache : Nat) (fragment : Draft) (cursor language : Value)
    (w : Workspace σ) :
    (candidates cache fragment cursor language w).result =
      (wordIn fragment.code cursor).bind fun word =>
        candidatesOf word fragment.settings.dictionary (w.listedNow cache language) := by
  rw [candidates, Action.bind_apply, Action.ofExcept_apply]
  cases wordIn fragment.code cursor with
  | error fault => rfl
  | ok word =>
      show ((if word.isEmpty then _ else _ : Action (Workspace σ) _) w).result = candidatesOf _ _ _
      rw [candidatesOf]
      cases word.isEmpty with
      | true => rfl
      | false =>
          rw [if_neg Bool.false_ne_true, if_neg Bool.false_ne_true, Action.bind_apply,
            result_wordsOf]
          cases w.listedNow cache language with
          | error fault => rfl
          | ok list =>
              show ((if _ then _ else _ : Action (Workspace σ) _) _).result = _
              -- Where there is nothing to find, nothing is found.
              split
              · next hnothing =>
                  obtain ⟨rfl, hnone⟩ := hnothing
                  rw [List.isEmpty_iff] at hnone
                  rw [hnone]
                  rfl
              · rw [Action.bind_apply]
                show _ = (startingAmong word fragment.settings.dictionary).bind _
                cases startingAmong word fragment.settings.dictionary with
                | error fault => rfl
                | ok own =>
                    show ((Action.ofExcept _ >>= _) _).result = Except.bind _ _
                    rw [Action.bind_apply]
                    cases startingAmong word (list.map .text) <;> rfl

/-- **The candidates for a word** are the words of the dictionary and then those
of the list that start with it. -/
theorem candidatesOf_text {word : String} (hword : word ≠ "") (dictionary list : List String) :
    candidatesOf (.text word) (dictionary.map .text) (.ok list) =
      .ok (startingWith word dictionary ++ startingWith word list) := by
  have hempty : (Value.text word).isEmpty = false := by
    simpa [Value.isEmpty] using hword
  rw [candidatesOf, hempty, startingAmong_text]
  show Except.bind (startingAmong _ _) _ = _
  rw [startingAmong_text]
  rfl

theorem result_candidates_draft (cache : Nat) (f : Fragment) (cursor : Int) (language : Value)
    (w : Workspace σ) :
    (candidates cache f.draft (.int cursor) language w).result =
      candidatesOf (.text (wordBefore f.code cursor)) f.settings.dictionary
        (w.listedNow cache language) := by
  have hin : wordIn f.draft.code (.int cursor) = .ok (.text (wordBefore f.code cursor)) :=
    wordIn_text f.code cursor
  rw [result_candidates_eq, hin]
  rfl

theorem result_candidates {id : Nat} {f : Fragment} {cursor : Int} {language : String}
    {dictionary list : List String} {w : Workspace σ}
    (hword : wordBefore f.code cursor ≠ "")
    (hdictionary : f.settings.dictionary = dictionary.map .text)
    (hlist : (w.caches.row id).listNow w.config language w.surroundings = .ok list) :
    (candidates id f.draft (.int cursor) (.text language) w).result =
      .ok (startingWith (wordBefore f.code cursor) dictionary ++
        startingWith (wordBefore f.code cursor) list) := by
  have hlisted : w.listedNow id (.text language) = .ok list := hlist
  rw [result_candidates_draft, hdictionary, hlisted, candidatesOf_text hword]

/-! ## Requests -/

end Typeahead.Workspace
