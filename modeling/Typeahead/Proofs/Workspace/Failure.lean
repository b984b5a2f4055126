import Typeahead.Proofs.WordList.Naming
import Typeahead.Proofs.Workspace.Moves

/-!
# Failures leave caches as they were

What a fault leaves behind, wherever it comes from: the loader of a list, the template
that names the list, or a collaborator that is asked before any list. Main statement:
`caches_of_failure`. A list that could not be read is none of these: it is kept as the
empty list.
-/

namespace Typeahead

open Typeahead.Resource

variable {σ : Type}

/-- The names of lists and their encoding are those that nobody has overridden. -/
structure Config.Stock (config : Config) : Prop where
  resourceTemplate : config.resourceTemplate = WordList.stockTemplate
  encoding : config.encoding = .text "utf-8"

theorem Config.stock_ofVariables (bundled : String) (vars : Variables) :
    (Config.ofVariables bundled vars).Stock :=
  ⟨rfl, rfl⟩

namespace Cache

/-! ## Lists that are not read -/

/-- A list is not read when its loader ends in a fault that is none of reading. -/
theorem listRead_eq_error_iff {config : Config} (h : config.Stock) (loader : Loader σ)
    (code : String) (s : Surroundings σ) (fault : Fault) :
    listRead config loader code s = .error fault ↔
      (loader.load (.text (WordList.resourceOf code)) s).result = .error fault ∧
        fault.isReadFailure = false := by
  have hread : listRead config loader code s =
      config.wordsIn (loader.load (.text (WordList.resourceOf code)) s).result := by
    rw [listRead, Config.nameOf_stock h.resourceTemplate]
    rfl
  rw [hread]
  cases (loader.load (.text (WordList.resourceOf code)) s).result with
  | error trouble =>
      cases hfailure : trouble.isReadFailure with
      | true =>
          rw [Config.wordsIn, hfailure]
          constructor
          · intro hnil
            cases hnil
          · rintro ⟨htrouble, hfalse⟩
            obtain rfl := Except.error.inj htrouble
            rw [hfailure] at hfalse
            cases hfalse
      | false =>
          rw [Config.wordsIn, hfailure]
          constructor
          · intro htrouble
            obtain rfl := Except.error.inj htrouble
            exact ⟨rfl, hfailure⟩
          · rintro ⟨htrouble, -⟩
            obtain rfl := Except.error.inj htrouble
            rfl
  | ok content =>
      -- What was loaded has words.
      have hwords : ∃ words, config.wordsIn (.ok content) = .ok words := by
        cases content with
        | none => exact ⟨[], rfl⟩
        | some octets => exact ⟨_, Config.wordsIn_stock h.encoding octets⟩
      obtain ⟨words, hwords⟩ := hwords
      rw [hwords]
      constructor
      · intro hfault
        cases hfault
      · rintro ⟨hfault, -⟩
        cases hfault

theorem listRead_of_read_failure {config : Config} {loader : Loader σ} {code name : String}
    {s : Surroundings σ} {fault : Fault} (hname : config.nameOf code = .ok name)
    (hload : (loader.load (.text name) s).result = .error fault)
    (hfailure : fault.isReadFailure = true) : listRead config loader code s = .ok [] := by
  rw [listRead, hname]
  show config.wordsIn (loader.load (.text name) s).result = _
  rw [hload, Config.wordsIn, if_pos hfailure]

end Cache

namespace Workspace

variable {id : Nat} {code : String} {w : Workspace σ}

/-! ## Lists -/

theorem result_words_eq_error_iff {fault : Fault} :
    (words id code w).result = .error fault ↔
      WordList.isCode code = true ∧ (w.caches.row id).find? code = none ∧
        Cache.listRead w.config (w.caches.row id).loader code w.surroundings = .error fault := by
  rw [result_words, Cache.listNow]
  split
  · next hcode =>
      cases hfind : (w.caches.row id).find? code with
      | some list => simp
      | none => simp [hcode]
  · next hcode => simp [hcode]

/-- **A fault keeps nothing.** -/
theorem words_of_error {fault : Fault} (h : (words id code w).result = .error fault) :
    (words id code w).state = w.afterReading id code := by
  obtain ⟨hcode, hfind, hread⟩ := result_words_eq_error_iff.mp h
  rw [words_of_missing hcode hfind, hread]

theorem calls_words_of_missing {name : String} (hcode : WordList.isCode code = true)
    (hfind : (w.caches.row id).find? code = none) (hname : w.config.nameOf code = .ok name) :
    Event.calls (words id code w).events = [.load (.text name)] := by
  rw [words_of_missing hcode hfind]
  show Event.calls (Cache.readList _ _ _ _).events = _
  rw [Cache.calls_readList, hname]

theorem calls_words_again {name : String} {fault : Fault}
    (h : (words id code w).result = .error fault) (hname : w.config.nameOf code = .ok name) :
    Event.calls (words id code (words id code w).state).events = [.load (.text name)] := by
  obtain ⟨hcode, hfind, -⟩ := result_words_eq_error_iff.mp h
  rw [words_of_error h]
  exact calls_words_of_missing hcode hfind hname

theorem words_of_read_failure {name : String} {fault : Fault}
    (hcode : WordList.isCode code = true) (hfind : (w.caches.row id).find? code = none)
    (hname : w.config.nameOf code = .ok name)
    (hload : ((w.caches.row id).loader.load (.text name) w.surroundings).result = .error fault)
    (hfailure : fault.isReadFailure = true) :
    (words id code w).result = .ok [] ∧
      (words id code w).state = (w.afterReading id code).keeping id code [] := by
  rw [words_of_missing hcode hfind, Cache.listRead_of_read_failure hname hload hfailure]
  exact ⟨rfl, rfl⟩

theorem words_of_keeping (hcode : WordList.isCode code = true) (list : List String) :
    words id code (w.keeping id code list) = ⟨.ok list, w.keeping id code list, []⟩ := by
  refine words_of_kept hcode ?_
  show ((w.caches.set id _).row id).find? code = some list
  rw [Table.row_set_self, Cache.find?_keep_self]

theorem words_of_unnamed {fault : Fault} (hcode : WordList.isCode code = true)
    (hfind : (w.caches.row id).find? code = none) (hname : w.config.nameOf code = .error fault) :
    words id code w = ⟨.error fault, w, []⟩ := by
  have hread : Cache.listRead w.config (w.caches.row id).loader code w.surroundings =
      .error fault := by
    rw [Cache.listRead, hname]
    rfl
  rw [words_of_missing hcode hfind, hread, afterReading, Cache.readList_of_unnamed hname]

/-! ## Requests -/

/-- A collaborator that is asked before any list fails: the fragmentizer, or for the
fragment that is found its builder or the detector. -/
def FailsEarly (w : Workspace σ) (engine : Engine) (doc : Document) (o : Nat) (fault : Fault) :
    Prop :=
  (fragmentize doc w).result = .error fault ∨
    ∃ draft cursor, w.found? doc o = some (draft, cursor) ∧
      (recognize engine doc draft (fragmentize doc w).state).result = .error fault

/-- A request that fails early is over where it failed, and has come to no list. -/
theorem rests_complete_of_failsEarly {engine : Engine} {doc : Document} {position : Position}
    {o : Nat} {fault : Fault} (hoffset : doc.offsetAt position = .ok o)
    (h : w.FailsEarly engine doc o fault) :
    (complete engine doc position w).result = .error fault ∧
      w.Rests (complete engine doc position w).state ∧
      Event.loads (complete engine doc position w).events = [] := by
  have hsplit := rests_fragmentize doc w
  rcases h with hfault | ⟨draft, cursor, hfound, hfault⟩
  · rw [complete, hoffset]
    show ((fragmentize doc >>= _) w).result = _ ∧ w.Rests ((fragmentize doc >>= _) w).state ∧
      Event.loads ((fragmentize doc >>= _) w).events = _
    rw [Action.bind_of_error hfault]
    exact ⟨rfl, hsplit, loads_fragmentize doc w⟩
  · rw [complete_of_found hoffset hfound, completeIn_eq, Action.bind_of_error hfault]
    refine ⟨rfl, trans_of Rests hsplit (rests_recognize engine doc draft _), ?_⟩
    rw [Event.loads_append, loads_fragmentize, loads_recognize]
    rfl

/-- **Failures leave caches as they were.** With the template and the encoding that nobody
has overridden, a list is missing exactly when its loader ends in a fault that is none of
reading; then nothing is kept, and the list is asked for again the next time. A list that
could not be read is kept as the empty one. Where a list has no name it is not asked for,
while lists that are kept are still there. A request that fails before it comes to a list
changes no cache, and no reading is counted. -/
theorem caches_of_failure (w : Workspace σ) (id : Nat) (code : String) :
    let cache := w.caches.row id
    let outcome := words id code w
    (w.config.Stock →
      let name : Value := .text (WordList.resourceOf code)
      let loaded := (cache.loader.load name w.surroundings).result
      (∀ fault, outcome.result = .error fault ↔
        WordList.isCode code = true ∧ cache.find? code = none ∧ loaded = .error fault ∧
          fault.isReadFailure = false) ∧
      (∀ fault, outcome.result = .error fault →
        outcome.state.caches = w.caches ∧
          Event.calls (words id code outcome.state).events = [.load name]) ∧
      (∀ fault, WordList.isCode code = true → cache.find? code = none →
        loaded = .error fault → fault.isReadFailure = true →
        outcome.result = .ok [] ∧ outcome.state.caches = w.caches.set id (cache.keep code []) ∧
          words id code outcome.state = ⟨.ok [], outcome.state, []⟩)) ∧
    (∀ fault, WordList.isCode code = true → cache.find? code = none →
      w.config.nameOf code = .error fault → outcome = ⟨.error fault, w, []⟩) ∧
    (∀ list, WordList.isCode code = true → cache.find? code = some list →
      outcome = ⟨.ok list, w, []⟩) ∧
    ∀ engine doc position o fault, doc.offsetAt position = .ok o →
      w.FailsEarly engine doc o fault →
      let request := complete engine doc position w
      request.result = .error fault ∧ request.state.caches = w.caches ∧
        request.state.surroundings.stores = w.surroundings.stores ∧
        ∀ name, .load name ∉ Event.calls request.events := by
  intro cache outcome
  refine ⟨fun hstock => ?_, fun fault hcode hfind hname => words_of_unnamed hcode hfind hname,
    fun list hcode hfind => words_of_kept hcode hfind, ?_⟩
  · intro name loaded
    have hname : w.config.nameOf code = .ok (WordList.resourceOf code) :=
      Config.nameOf_stock hstock.resourceTemplate code
    refine ⟨fun fault => ?_, fun fault hfault => ?_, fun fault hcode hfind hload hfailure => ?_⟩
    · rw [result_words_eq_error_iff, Cache.listRead_eq_error_iff hstock]
    · refine ⟨?_, calls_words_again hfault hname⟩
      show (words id code w).state.caches = w.caches
      rw [words_of_error hfault]
      rfl
    · obtain ⟨hresult, hstate⟩ := words_of_read_failure hcode hfind hname hload hfailure
      refine ⟨hresult, ?_, ?_⟩
      · show (words id code w).state.caches = _
        rw [hstate]
        rfl
      · show words id code (words id code w).state = ⟨.ok [], (words id code w).state, []⟩
        rw [hstate]
        exact words_of_keeping hcode []
  · intro engine doc position o fault hoffset hfails
    obtain ⟨hresult, hrests, hloads⟩ := rests_complete_of_failsEarly hoffset hfails
    refine ⟨hresult, congrArg Standing.caches hrests.standing, hrests.stores, fun name hname => ?_⟩
    rw [← Event.mem_loads, hloads] at hname
    cases hname

/-- A loader in trouble for one list and not allowed to read another, a template with a
field that it does not know, and a builder that cannot be made. -/
theorem caches_of_failure_in_trouble :
    let trouble : Trouble := ⟨.other "ValueError", "bad list"⟩
    let loader : Loader Unit := .custom fun name _ =>
      ⟨.error (if name.text? = some "completionList.en.txt" then trouble
        else ⟨.permissionDenied, "no access"⟩), (), ""⟩
    let w : Workspace Unit :=
      { bundled := "lists", surroundings := { host := () },
        builders := Builder.initial.register (.text plaintext) fun _ => ⟨.error trouble, (), ""⟩,
        caches := (Table.filled default).set 0 { loader, lists := [("de", ["Baum"])] } }
    let unnamed : Workspace Unit :=
      { w with config := { w.config with resourceTemplate := .text "\x7blang\x7d" } }
    let request := complete ⟨0, 0⟩ ⟨"an", .text plaintext, Settings.of "en" []⟩
      (Position.of 0 1) w
    ((words 0 "en" w).result = .error (.collaborator trouble) ∧
        (words 0 "en" w).state.caches = w.caches ∧
        Event.calls (words 0 "en" (words 0 "en" w).state).events =
          [.load (.text "completionList.en.txt")]) ∧
      ((words 0 "fr" w).result = .ok [] ∧
        words 0 "fr" (words 0 "fr" w).state = ⟨.ok [], (words 0 "fr" w).state, []⟩) ∧
      (∃ fault, words 0 "en" unnamed = ⟨.error fault, unnamed, []⟩) ∧
      words 0 "de" unnamed = ⟨.ok ["Baum"], unnamed, []⟩ ∧
      request.result = .error (.collaborator trouble) ∧ request.state.caches = w.caches := by
  intro trouble loader w unnamed request
  have hstock : w.config.Stock := Config.stock_ofVariables _ _
  have hen := (caches_of_failure w 0 "en").1 hstock
  have hfr := (caches_of_failure w 0 "fr").1 hstock
  have hfault : (words 0 "en" w).result = .error (.collaborator trouble) :=
    (hen.1 _).mpr ⟨by decide, rfl, rfl, rfl⟩
  have hread := hfr.2.2 (.collaborator ⟨.permissionDenied, "no access"⟩) (by decide) rfl rfl rfl
  obtain ⟨fault, hname⟩ : ∃ fault, unnamed.config.nameOf "en" = .error fault := ⟨_, rfl⟩
  have hfails : w.FailsEarly ⟨0, 0⟩ ⟨"an", .text plaintext, Settings.of "en" []⟩ 1
      (.collaborator trouble) := .inr ⟨_, _, rfl, rfl⟩
  have hrequest := (caches_of_failure w 0 "en").2.2.2 _ _ (Position.of 0 1) 1 _ rfl hfails
  exact ⟨⟨hfault, hen.2.1 _ hfault⟩, ⟨hread.1, hread.2.2⟩,
    ⟨fault, (caches_of_failure unnamed 0 "en").2.1 fault (by decide) rfl hname⟩,
    (caches_of_failure unnamed 0 "de").2.2.1 _ (by decide) rfl, hrequest.1, hrequest.2.1⟩

end Workspace

end Typeahead
