import Typeahead.Proofs.Workspace.Calls

/-!
# What a request overlooks

A request goes by few parts of a workspace. An action overlooks a change when it does
the same after the change as before it, and the change stays. Main statement:
`overlooks_complete`. A request overlooks what is registered for other dialects than
those of its document and of the fragment that is found, and what other caches than
its own keep.
-/

namespace Typeahead

namespace Action

variable {σ α β : Type} {change : σ → σ} {s : σ}

/-- From this state the action ends in the same after the change as before it, and so
do its events and, but for the change, the state that it leaves. -/
def Overlooks (action : Action σ α) (change : σ → σ) (s : σ) : Prop :=
  action (change s) = ⟨(action s).result, change (action s).state, (action s).events⟩

theorem Overlooks.bind {first : Action σ α} {next : α → Action σ β}
    (hfirst : first.Overlooks change s)
    (hnext : ∀ a, (first s).result = .ok a → (next a).Overlooks change (first s).state) :
    (first >>= next).Overlooks change s := by
  have hchanged : first (change s) = _ := hfirst
  cases hresult : (first s).result with
  | error fault =>
      have hresult' : (first (change s)).result = .error fault := by rw [hchanged, hresult]
      rw [Overlooks, bind_of_error hresult, bind_of_error hresult', hchanged]
  | ok a =>
      have hresult' : (first (change s)).result = .ok a := by rw [hchanged, hresult]
      have hrest : next a (change (first s).state) = _ := hnext a hresult
      rw [Overlooks, bind_of_ok hresult, bind_of_ok hresult', hchanged, hrest]

theorem overlooks_read_bind {next : σ → Action σ β}
    (h : next (change s) (change s) =
      ⟨(next s s).result, change (next s s).state, (next s s).events⟩) :
    (read id >>= next).Overlooks change s := by
  rw [Overlooks, read_id_bind, read_id_bind]
  exact h

end Action

/-! ## Registries -/

section Registries

variable {σ : Type} {config : Config}

/-- Of a registry, only what is registered for the dialect counts. -/
theorem Document.fragments_congr {doc : Document}
    {registry registry' : Registry (Fragmentizer.Factory σ)}
    (h : registry'.lookUp doc.languageId = registry.lookUp doc.languageId) :
    doc.fragments config registry' = doc.fragments config registry := by
  rw [Document.fragments, Fragmentizer.make, h]
  rfl

theorem Draft.plainText_congr {draft : Draft}
    {registry registry' : Registry (Builder.Factory σ)}
    (h : registry'.lookUp draft.languageId = registry.lookUp draft.languageId) :
    draft.plainText config registry' = draft.plainText config registry := by
  rw [Draft.plainText, Builder.make, h]
  rfl

end Registries

namespace Workspace

open Typeahead.Resource

variable {σ α : Type}

/-- A change of parts of a workspace that not every request looks at. -/
structure Change (σ : Type) where
  fragmentizers : Registry (Fragmentizer.Factory σ) → Registry (Fragmentizer.Factory σ) := id
  builders : Registry (Builder.Factory σ) → Registry (Builder.Factory σ) := id
  caches : Table (Cache σ) → Table (Cache σ) := id
  stores : Table Store → Table Store := id
  sharedCache : Option Nat → Option Nat := id

def Change.apply (c : Change σ) (w : Workspace σ) : Workspace σ :=
  { w with
    fragmentizers := c.fragmentizers w.fragmentizers
    builders := c.builders w.builders
    caches := c.caches w.caches
    sharedCache := c.sharedCache w.sharedCache
    surroundings := { w.surroundings with stores := c.stores w.surroundings.stores } }

variable {c : Change σ} {w : Workspace σ}

/-! ## Stages -/

theorem overlooks_onHost (action : Action σ α) : (onHost action).Overlooks c.apply w := rfl

theorem overlooks_fragmentize {doc : Document}
    (h : (c.fragmentizers w.fragmentizers).lookUp doc.languageId =
      w.fragmentizers.lookUp doc.languageId) :
    (fragmentize doc).Overlooks c.apply w := by
  apply Action.overlooks_read_bind
  show onHost (doc.fragments w.config (c.fragmentizers w.fragmentizers)) (c.apply w) = _
  rw [Document.fragments_congr h]
  rfl

theorem overlooks_annotate {doc : Document} {draft : Draft}
    (h : (c.builders w.builders).lookUp draft.languageId = w.builders.lookUp draft.languageId) :
    (annotate doc draft).Overlooks c.apply w := by
  apply Action.overlooks_read_bind
  show (onHost (draft.plainText w.config (c.builders w.builders)) >>= _) (c.apply w) = _
  rw [Draft.plainText_congr h]
  exact (overlooks_onHost _).bind fun _ _ => rfl

theorem overlooks_resolve (resolver : Nat) (plainText : Value) (settings : Settings) :
    (resolve resolver plainText settings).Overlooks c.apply w := by
  apply Action.overlooks_read_bind
  exact (overlooks_onHost _).bind fun _ _ => rfl

theorem overlooks_recognize {engine : Engine} {doc : Document} {draft : Draft}
    (h : (c.builders w.builders).lookUp draft.languageId = w.builders.lookUp draft.languageId) :
    (recognize engine doc draft).Overlooks c.apply w :=
  (overlooks_annotate h).bind fun _ _ => overlooks_resolve _ _ _

/-! ## Lists -/

structure Change.Spares (c : Change σ) (cache : Nat) : Prop where
  stores : c.stores = id
  row : ∀ caches, (c.caches caches).row cache = caches.row cache
  set : ∀ caches kept, c.caches (caches.set cache kept) = (c.caches caches).set cache kept

theorem overlooks_onSurroundings (action : Action (Surroundings σ) α) (h : c.stores = id) :
    (onSurroundings action).Overlooks c.apply w := by
  obtain ⟨fragmentizers, builders, caches, stores, sharedCache⟩ := c
  obtain rfl : stores = id := h
  rfl

theorem overlooks_words {cache : Nat} (h : c.Spares cache) (code : String) :
    (words cache code).Overlooks c.apply w := by
  apply Action.overlooks_read_bind
  show (onSurroundings (((c.caches w.caches).row cache).get w.config code) >>= _) (c.apply w) = _
  rw [h.row]
  refine (overlooks_onSurroundings _ h.stores).bind fun found _ => ?_
  refine Action.Overlooks.bind ?_ fun _ _ => rfl
  -- The list is kept in a row that the change spares.
  rw [Action.Overlooks, Action.modify_apply, Action.modify_apply]
  simp only [Change.apply, h.set]

theorem overlooks_wordsOf {cache : Nat} (h : c.Spares cache) (language : Value) :
    (wordsOf cache language).Overlooks c.apply w := by
  unfold wordsOf
  split
  · exact overlooks_words h _
  · rfl

theorem overlooks_candidates {cache : Nat} (h : c.Spares cache) (draft : Draft)
    (cursor language : Value) :
    (candidates cache draft cursor language).Overlooks c.apply w := by
  unfold candidates
  refine Action.Overlooks.bind rfl fun word _ => ?_
  split
  · rfl
  · refine (overlooks_wordsOf h language).bind fun listed _ => ?_
    split
    · rfl
    · refine Action.Overlooks.bind rfl fun own _ => ?_
      refine Action.Overlooks.bind rfl fun others _ => ?_
      exact Action.Overlooks.bind rfl fun _ _ => rfl

/-! ## Requests -/

def located? (w : Workspace σ) (doc : Document) (position : Position) :
    Option (Draft × Value) :=
  match doc.offsetAt position with
  | .error _ => none
  | .ok o => w.found? doc o

theorem located?_of_offset {doc : Document} {position : Position} {o : Nat}
    (h : doc.offsetAt position = .ok o) : w.located? doc position = w.found? doc o := by
  rw [located?, h]

theorem exists_offset_of_located {doc : Document} {position : Position}
    {found : Draft × Value} (h : w.located? doc position = some found) :
    ∃ o, doc.offsetAt position = .ok o ∧ w.found? doc o = some found := by
  rw [located?] at h
  cases hoffset : doc.offsetAt position with
  | error trouble =>
      rw [hoffset] at h
      cases h
  | ok o =>
      rw [hoffset] at h
      exact ⟨o, rfl, h⟩

theorem found?_of_locate {doc : Document} {o : Nat} {drafts : List Draft}
    {found? : Option (Draft × Value)} (hsplit : (fragmentize doc w).result = .ok drafts)
    (hlocate : Draft.locate drafts (.int o) = .ok found?) : w.found? doc o = found? := by
  rw [Workspace.found?, hsplit]
  simp only
  rw [hlocate]

/-- **What a request overlooks.** What is registered for the dialect of the document,
and for that of the fragment that is found if one is, has to stay, and so has the
cache of the engine. -/
theorem overlooks_complete {engine : Engine} {doc : Document} {position : Position}
    (hsplit : (c.fragmentizers w.fragmentizers).lookUp doc.languageId =
      w.fragmentizers.lookUp doc.languageId)
    (hbuild : ∀ draft cursor, w.located? doc position = some (draft, cursor) →
      (c.builders w.builders).lookUp draft.languageId = w.builders.lookUp draft.languageId)
    (hcache : c.Spares engine.cache) :
    (complete engine doc position).Overlooks c.apply w := by
  unfold complete
  refine Action.Overlooks.bind rfl fun offset hoffset => ?_
  refine (overlooks_fragmentize hsplit).bind fun drafts hdrafts => ?_
  refine Action.Overlooks.bind rfl fun found? hfound => ?_
  cases found? with
  | none => exact Action.Overlooks.bind rfl fun _ _ => rfl
  | some found =>
      obtain ⟨draft, cursor⟩ := found
      have hlocated : w.located? doc position = some (draft, cursor) := by
        rw [located?_of_offset (of_mapError_eq_ok hoffset)]
        exact found?_of_locate hdrafts (of_mapError_eq_ok hfound)
      have hkept := keeps_fragmentize doc w
      show (completeIn engine doc draft cursor).Overlooks c.apply (fragmentize doc w).state
      rw [completeIn_eq]
      have hrecognize :
          (recognize engine doc draft).Overlooks c.apply (fragmentize doc w).state := by
        apply overlooks_recognize
        rw [hkept.builders]
        exact hbuild draft cursor hlocated
      refine hrecognize.bind fun language? _ => ?_
      cases language? with
      | none => exact Action.Overlooks.bind rfl fun _ _ => rfl
      | some language => exact overlooks_candidates hcache draft cursor language

end Workspace

end Typeahead
