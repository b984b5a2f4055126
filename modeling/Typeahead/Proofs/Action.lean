import Mathlib.Order.Defs.Unbundled
import Typeahead.Action

/-!
# Laws of actions

What a sequence of two actions leaves behind, when two sequences end alike, and four
properties of actions that sequences inherit: an action is silent when it lets no
event happen; it keeps a relation when the state it leaves is so related to the one
it runs from, also when it ends in a fault; it yields what is fit when it ends in no
fault, from no state, and its answer is fit; and it ensures what is fit when its
answers, if any, are.
-/

namespace Typeahead.Action

variable {σ τ α β : Type}

/-! ## Sequences and parts -/

theorem result_bind_of_ok {first : Action σ α} {next : α → Action σ β} {s : σ} {a : α}
    (h : (first s).result = .ok a) :
    ((first >>= next) s).result = (next a (first s).state).result := by
  rw [bind_of_ok h]

theorem exists_of_bind_eq_ok {first : Action σ α} {next : α → Action σ β} {s : σ} {b : β}
    (h : ((first >>= next) s).result = .ok b) :
    ∃ a, (first s).result = .ok a ∧ (next a (first s).state).result = .ok b := by
  cases hfirst : (first s).result with
  | error fault =>
      rw [bind_of_error hfirst] at h
      cases h
  | ok a =>
      rw [result_bind_of_ok hfirst] at h
      exact ⟨a, rfl, h⟩

/-- When the second action only makes something of the answer of the first, that is
what the sequence makes of it. -/
theorem result_bind_map {first : Action σ α} {next : α → Action σ β} {make : α → β}
    (h : ∀ a s, (next a s).result = .ok (make a)) (s : σ) :
    ((first >>= next) s).result = (first s).result.map make := by
  rw [bind_apply]
  cases (first s).result with
  | error fault => rfl
  | ok a => exact h a _

theorem or_exists_of_bind_eq_error {first : Action σ α} {next : α → Action σ β} {s : σ}
    {fault : Fault} (h : ((first >>= next) s).result = .error fault) :
    (first s).result = .error fault ∨
      ∃ a, (first s).result = .ok a ∧ (next a (first s).state).result = .error fault := by
  cases hfirst : (first s).result with
  | error other =>
      rw [bind_of_error hfirst] at h
      exact .inl (congrArg Except.error (Except.error.inj h))
  | ok a =>
      rw [result_bind_of_ok hfirst] at h
      exact .inr ⟨a, rfl, h⟩

instance : LawfulMonad (Action σ) := LawfulMonad.mk' _
  (fun action => by
    funext s
    show (action >>= fun a => Pure.pure (id a)) s = action s
    rw [bind_apply]
    cases h : action s with
    | mk result state events => cases result <;> simp)
  (fun a next => by
    funext s
    rw [bind_of_ok (a := a) rfl]
    rfl)
  (fun first second third => by
    funext s
    rw [bind_apply, bind_apply, bind_apply]
    cases (first s).result with
    | error fault => rfl
    | ok a =>
        simp only
        rw [bind_apply]
        cases (second a (first s).state).result with
        | error fault => rfl
        | ok b => simp)

theorem exists_of_map_eq_ok {make : α → β} {action : Action σ α} {s : σ} {b : β}
    (h : ((make <$> action) s).result = .ok b) :
    ∃ a, (action s).result = .ok a ∧ make a = b := by
  rw [map_eq_pure_bind] at h
  obtain ⟨a, hresult, hmade⟩ := exists_of_bind_eq_ok h
  exact ⟨a, hresult, Except.ok.inj hmade⟩

theorem read_bind (view : σ → α) (next : α → Action σ β) (s : σ) :
    (read view >>= next) s = next (view s) s := by
  rw [bind_of_ok (a := view s) rfl]
  show Outcome.mk _ _ ([] ++ _) = _
  rw [List.nil_append]
  rfl

theorem read_id_bind (next : σ → Action σ β) (s : σ) : (read id >>= next) s = next s s :=
  read_bind id next s

theorem map_apply (make : α → β) (action : Action σ α) (s : σ) :
    (make <$> action) s = ⟨(action s).result.map make, (action s).state, (action s).events⟩ := by
  rw [map_eq_pure_bind, bind_apply]
  cases (action s).result with
  | error fault => rfl
  | ok a =>
      show Outcome.mk _ _ (_ ++ []) = _
      rw [List.append_nil]
      rfl

@[simp] theorem zoom_apply (view : τ → σ) (put : σ → τ → τ) (action : Action σ α) (t : τ) :
    action.zoom view put t = ⟨(action (view t)).result, put (action (view t)).state t,
      (action (view t)).events⟩ := rfl

theorem ask_apply (call : Call) (host : Host σ α) (s : σ) :
    ask call host s = ⟨(host s).answer.mapError .collaborator, (host s).state,
      .call call :: if (host s).printed = "" then [] else [.printed (host s).printed]⟩ := rfl

theorem result_ask (call : Call) (host : Host σ α) (s : σ) :
    (ask call host s).result = (host s).answer.mapError .collaborator := rfl

/-! ## Two runs -/

theorem result_bind_congr {first : Action σ α} {first' : Action τ α} {next : α → Action σ β}
    {next' : α → Action τ β} {s : σ} {t : τ} (hfirst : (first s).result = (first' t).result)
    (hnext : ∀ a, (first s).result = .ok a →
      (next a (first s).state).result = (next' a (first' t).state).result) :
    ((first >>= next) s).result = ((first' >>= next') t).result := by
  rw [bind_apply, bind_apply, ← hfirst]
  cases h : (first s).result with
  | error fault => rfl
  | ok a => exact hnext a h

theorem bind_congr_of_ok {first : Action σ α} {next next' : α → Action σ β} {s : σ}
    (h : ∀ a, (first s).result = .ok a →
      next a (first s).state = next' a (first s).state) :
    (first >>= next) s = (first >>= next') s := by
  cases hfirst : (first s).result with
  | error fault => rw [bind_of_error hfirst, bind_of_error hfirst]
  | ok a => rw [bind_of_ok hfirst, bind_of_ok hfirst, h a hfirst]

/-- What the action ends in depends on no state: from all states it has the same
answer, or the same fault. -/
def Unvarying (action : Action σ α) : Prop :=
  ∀ s t, (action s).result = (action t).result

/-! ## Silent actions -/

def Silent (action : Action σ α) : Prop :=
  ∀ s, (action s).events = []

theorem silent_pure (a : α) : (Pure.pure a : Action σ α).Silent :=
  fun _ => rfl

theorem silent_ofExcept (result : Except Fault α) : (ofExcept result : Action σ α).Silent :=
  fun _ => rfl

theorem silent_read (view : σ → α) : (read view).Silent :=
  fun _ => rfl

theorem silent_modify (change : σ → σ) : (modify change).Silent :=
  fun _ => rfl

theorem Silent.bind {first : Action σ α} {next : α → Action σ β} (hfirst : first.Silent)
    (hnext : ∀ a, (next a).Silent) : (first >>= next).Silent := by
  intro s
  rw [bind_apply]
  cases h : (first s).result with
  | error fault => exact hfirst s
  | ok a =>
      show (first s).events ++ (next a (first s).state).events = []
      rw [hfirst, hnext, List.append_nil]

theorem events_bind_of_silent {first : Action σ α} {next : α → Action σ β}
    (h : ∀ a, (next a).Silent) (s : σ) : ((first >>= next) s).events = (first s).events := by
  rw [bind_apply]
  cases (first s).result with
  | error fault => rfl
  | ok a =>
      show (first s).events ++ (next a (first s).state).events = (first s).events
      rw [h, List.append_nil]

theorem Silent.events_bind {first : Action σ α} (hsilent : first.Silent) {s : σ} {a : α}
    (h : (first s).result = .ok a) (next : α → Action σ β) :
    ((first >>= next) s).events = (next a (first s).state).events := by
  rw [bind_of_ok h]
  show (first s).events ++ (next a (first s).state).events = _
  rw [hsilent, List.nil_append]

/-! ## Relations that actions keep -/

/-- Whatever state the action runs from, the one it leaves is related to it. -/
def Keeps (R : σ → σ → Prop) (action : Action σ α) : Prop :=
  ∀ s, R s (action s).state

variable {R : σ → σ → Prop} [IsPreorder σ R]

/-- An action that leaves the state as it was keeps every preorder. -/
theorem keeps_of_same {action : Action σ α} (h : ∀ s, (action s).state = s) : action.Keeps R := by
  intro s
  rw [h]
  exact refl s

theorem Keeps.bind {first : Action σ α} {next : α → Action σ β} (hfirst : first.Keeps R)
    (hnext : ∀ a, (next a).Keeps R) : (first >>= next).Keeps R := by
  intro s
  rw [bind_apply]
  cases h : (first s).result with
  | error fault => exact hfirst s
  | ok a => exact trans_of R (hfirst s) (hnext a _)

omit [IsPreorder σ R] in
theorem Keeps.map {action : Action σ α} (h : action.Keeps R) (make : α → β) :
    (make <$> action).Keeps R := by
  intro s
  rw [map_apply]
  exact h s

/-! ## Actions that answer -/

/-- From every state the action has an answer, and the answer is fit. -/
def Yields (action : Action σ α) (fit : α → Prop) : Prop :=
  ∀ s, ∃ a, (action s).result = .ok a ∧ fit a

theorem yields_pure {fit : α → Prop} {a : α} (h : fit a) : (Pure.pure a : Action σ α).Yields fit :=
  fun _ => ⟨a, rfl, h⟩

theorem yields_ofExcept {fit : α → Prop} {result : Except Fault α} {a : α}
    (hresult : result = .ok a) (h : fit a) : (ofExcept result : Action σ α).Yields fit :=
  fun _ => ⟨a, hresult, h⟩

theorem yields_log (level : Level) (topic : Topic) (message : String) :
    (log level topic message : Action σ Unit).Yields fun _ => True :=
  fun _ => ⟨(), rfl, trivial⟩

theorem Yields.bind {first : Action σ α} {next : α → Action σ β} {fit : α → Prop}
    {fit' : β → Prop} (hfirst : first.Yields fit) (hnext : ∀ a, fit a → (next a).Yields fit') :
    (first >>= next).Yields fit' := by
  intro s
  obtain ⟨a, ha, hfit⟩ := hfirst s
  obtain ⟨b, hb, hfit'⟩ := hnext a hfit (first s).state
  refine ⟨b, ?_, hfit'⟩
  rw [result_bind_of_ok ha, hb]

/-! ## Answers that are fit -/

/-- Whenever the action has an answer, the answer is fit. -/
def Ensures (action : Action σ α) (fit : α → Prop) : Prop :=
  ∀ s a, (action s).result = .ok a → fit a

theorem ensures_pure {fit : α → Prop} {a : α} (h : fit a) :
    (Pure.pure a : Action σ α).Ensures fit := by
  intro s b hb
  obtain rfl := Except.ok.inj hb
  exact h

theorem ensures_bind {first : Action σ α} {next : α → Action σ β} {fit : β → Prop}
    (h : ∀ a, (next a).Ensures fit) : (first >>= next).Ensures fit := by
  intro s b hb
  rw [bind_apply] at hb
  cases hfirst : (first s).result with
  | error fault =>
      rw [hfirst] at hb
      cases hb
  | ok a =>
      rw [hfirst] at hb
      exact h a _ b hb

end Typeahead.Action

namespace Typeahead

variable {σ α : Type}

theorem of_mapError_eq_ok {ε ε' : Type} {wording : ε → ε'} {result : Except ε α} {a : α}
    (h : result.mapError wording = .ok a) : result = .ok a := by
  cases result with
  | error e => cases h
  | ok b => exact congrArg Except.ok (Except.ok.inj h)

/-- Every call of the collaborator has an answer, and the answer is fit. -/
def Host.Answers (host : Host σ α) (fit : α → Prop) : Prop :=
  ∀ s, ∃ a, (host s).answer = .ok a ∧ fit a

theorem Host.answers_pure {fit : α → Prop} {a : α} (h : fit a) :
    (Host.pure a : Host σ α).Answers fit :=
  fun _ => ⟨a, rfl, h⟩

theorem Host.Answers.ask {host : Host σ α} {fit : α → Prop} (h : host.Answers fit)
    (call : Call) : (Action.ask call host).Yields fit := by
  intro s
  obtain ⟨a, ha, hfit⟩ := h s
  refine ⟨a, ?_, hfit⟩
  rw [Action.ask_apply, ha]
  rfl

end Typeahead
