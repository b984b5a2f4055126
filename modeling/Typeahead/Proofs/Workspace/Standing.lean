import Typeahead.Proofs.Workspace.Moves

/-!
# What moves leave as it is

Invariants of the machine of caches. Main statements: `Leads.sound`, `Leads.sharedCache_eq`
and `Leads.loader_eq`. What is shared is never replaced, and a cache that was made keeps
its number and its loader.
-/

namespace Typeahead.Workspace.Standing

open Typeahead.Resource

variable {σ : Type} {s t : Standing σ} {moves : List (Move σ)} {cache : Nat}

structure Sound (s : Standing σ) : Prop where
  engine : ∀ engine, s.sharedEngine = some engine → s.sharedCache = some engine.cache
  made : ∀ cache, s.sharedCache = some cache → cache < s.caches.size

theorem sound_of_none (hcache : s.sharedCache = none) (hengine : s.sharedEngine = none) :
    s.Sound := by
  constructor
  · intro engine h
    rw [hengine] at h
    cases h
  · intro cache h
    rw [hcache] at h
    cases h

theorem Sound.after (h : s.Sound) {m : Move σ} (hfits : m.Fits s) : (s.after m).Sound := by
  cases m with
  | make loader =>
      refine ⟨h.engine, fun cache hcache => ?_⟩
      exact Nat.lt_succ_of_lt (h.made cache hcache)
  | share loader =>
      refine ⟨fun engine hengine => ?_, fun cache hcache => ?_⟩
      · -- There is no shared engine as long as there is no process-wide cache.
        have hshared := h.engine engine hengine
        rw [show s.sharedCache = none from hfits] at hshared
        cases hshared
      · obtain rfl := Option.some.inj hcache
        exact Nat.lt_succ_self _
  | install engine =>
      refine ⟨fun other hother => ?_, h.made⟩
      obtain rfl := Option.some.inj hother
      exact hfits.2
  | _ => exact ⟨h.engine, h.made⟩

theorem Leads.sound (h : s.Leads moves t) (hs : s.Sound) : t.Sound :=
  h.invariant hs fun _ _ _ hfits hu => hu.after hfits

theorem Leads.sharedCache_eq (h : s.Leads moves t) (hs : s.sharedCache = some cache) :
    t.sharedCache = some cache := by
  refine h.invariant (P := fun u => u.sharedCache = some cache) hs ?_
  intro m _ u hfits hu
  cases m with
  | share loader =>
      rw [show u.sharedCache = none from hfits] at hu
      cases hu
  | _ => exact hu

theorem Leads.sharedEngine_eq {engine : Engine} (h : s.Leads moves t)
    (hs : s.sharedEngine = some engine) : t.sharedEngine = some engine := by
  refine h.invariant (P := fun u => u.sharedEngine = some engine) hs ?_
  intro m _ u hfits hu
  cases m with
  | install other =>
      rw [hfits.1] at hu
      cases hu
  | _ => exact hu

theorem Leads.size_le (h : s.Leads moves t) : s.caches.size ≤ t.caches.size := by
  refine h.invariant (P := fun u => s.caches.size ≤ u.caches.size) (Nat.le_refl _) ?_
  intro m _ u _ hu
  cases m with
  | make loader => exact Nat.le_succ_of_le hu
  | share loader => exact Nat.le_succ_of_le hu
  | _ => exact hu

/-- A cache that was made before is not the process-wide one that is made later. -/
theorem Leads.size_le_shared (h : s.Leads moves t) (hs : s.sharedCache = none)
    (ht : t.sharedCache = some cache) : s.caches.size ≤ cache := by
  have hlater : s.caches.size ≤ t.caches.size ∧
      ∀ cache, t.sharedCache = some cache → s.caches.size ≤ cache := by
    refine h.invariant (P := fun u => s.caches.size ≤ u.caches.size ∧
      ∀ cache, u.sharedCache = some cache → s.caches.size ≤ cache) ⟨Nat.le_refl _, ?_⟩ ?_
    · intro cache hcache
      rw [hs] at hcache
      cases hcache
    · rintro m _ u _ ⟨hsize, hshared⟩
      cases m with
      | make loader => exact ⟨Nat.le_succ_of_le hsize, hshared⟩
      | share loader =>
          refine ⟨Nat.le_succ_of_le hsize, fun cache hcache => ?_⟩
          obtain rfl := Option.some.inj hcache
          exact hsize
      | _ => exact ⟨hsize, hshared⟩
  exact hlater.2 cache ht

theorem Leads.loader_eq (h : s.Leads moves t) (hsize : cache < s.caches.size) :
    (t.caches.row cache).loader = (s.caches.row cache).loader := by
  have hkept : cache < t.caches.size ∧
      (t.caches.row cache).loader = (s.caches.row cache).loader := by
    refine h.invariant (P := fun u => cache < u.caches.size ∧
      (u.caches.row cache).loader = (s.caches.row cache).loader) ⟨hsize, rfl⟩ ?_
    rintro m _ u _ ⟨hsize, hloader⟩
    have hpush (loader : Loader σ) : cache < (u.caches.push { loader }).size ∧
        ((u.caches.push { loader }).row cache).loader = (s.caches.row cache).loader := by
      rw [Table.row_push_of_ne _ _ (Nat.ne_of_lt hsize)]
      exact ⟨Nat.lt_succ_of_lt hsize, hloader⟩
    have hset (id : Nat) (lists : List (String × List String)) :
        ((u.caches.set id { u.caches.row id with lists }).row cache).loader =
          (s.caches.row cache).loader := by
      by_cases hid : cache = id
      · subst hid
        rw [Table.row_set_self]
        exact hloader
      · rw [Table.row_set_of_ne _ _ hid, hloader]
    cases m with
    | make loader => exact hpush loader
    | share loader => exact hpush loader
    | keep id code name list => exact ⟨hsize, hset id _⟩
    | forget id => exact ⟨hsize, hset id _⟩
    | _ => exact ⟨hsize, hloader⟩
  exact hkept.2

/-- The process-wide cache that was made stays, with the loader that it was made with. -/
theorem Leads.of_share {loader : Loader σ} (h : (s.after (.share loader)).Leads moves t) :
    t.sharedCache = some s.caches.size ∧ (t.caches.row s.caches.size).loader = loader := by
  refine ⟨h.sharedCache_eq rfl, ?_⟩
  rw [h.loader_eq (Nat.lt_succ_self _)]
  show ((s.caches.push { loader }).row s.caches.size).loader = loader
  rw [Table.row_push_self]

end Typeahead.Workspace.Standing
