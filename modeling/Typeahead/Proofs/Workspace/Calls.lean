import Typeahead.Proofs.Asked
import Typeahead.Proofs.Workspace.Completion

/-!
# The calls of a request

Which collaborators a completion request calls, in which order, and what comes of a
call that ends in a fault. Main statement: `complete_asks`. A request goes from stage
to stage, and each stage asks only what the stages before have left to be asked:
a builder about the fragment that was found, a detector about a language that is not
named, and a loader for a list that is not kept.
-/

namespace Typeahead.Workspace

open Typeahead.Resource

variable {σ α : Type}

theorem tells_onHost {action : Action σ α} {ranks : List Nat} {asked : σ → List Asked}
    (h : action.Tells ranks asked) :
    (onHost action).Tells ranks fun w : Workspace σ => asked w.surroundings.host :=
  fun w => ⟨(h w.surroundings.host).calls, (h w.surroundings.host).order,
    (h w.surroundings.host).heeded⟩

theorem tells_read_bind {next : Workspace σ → Action (Workspace σ) α} {ranks : List Nat}
    {asked : Workspace σ → Workspace σ → List Asked} (h : ∀ w, (next w).Tells ranks (asked w)) :
    (Action.read id >>= next).Tells ranks fun w => asked w w :=
  Action.AsksNobody.bind_tells (fun _ => rfl) h

/-! ## Fragments and their languages -/

def askedToSplit (w : Workspace σ) (doc : Document) : List Asked :=
  doc.asked w.config w.fragmentizers w.surroundings.host

theorem tells_fragmentize (doc : Document) :
    (fragmentize doc).Tells [0, 1] fun w : Workspace σ => w.askedToSplit doc :=
  tells_read_bind fun w => tells_onHost (doc.tells_fragments w.config w.fragmentizers)

def askedToBuild (w : Workspace σ) (draft : Draft) : List Asked :=
  draft.asked w.config w.builders w.surroundings.host

theorem tells_annotate (doc : Document) (draft : Draft) :
    (annotate doc draft).Tells [2, 3, 4, 5] fun w : Workspace σ => w.askedToBuild draft :=
  tells_read_bind fun w =>
    (tells_onHost (draft.tells_plainText w.config w.builders)).bind_nobody fun _ _ => rfl

def askedToResolve (w : Workspace σ) (resolver : Nat) (plainText : Value)
    (settings : Settings) : List Asked :=
  (w.resolvers.row resolver).asked w.config plainText settings w.surroundings.host

theorem tells_resolve (resolver : Nat) (plainText : Value) (settings : Settings) :
    (resolve resolver plainText settings).Tells [7, 8]
      fun w : Workspace σ => w.askedToResolve resolver plainText settings :=
  tells_read_bind fun w =>
    (tells_onHost ((w.resolvers.row resolver).tells_resolve w.config plainText
      settings)).bind_nobody fun _ _ => rfl

def askedToRecognize (w : Workspace σ) (engine : Engine) (doc : Document) (draft : Draft) :
    List Asked :=
  w.askedToBuild draft ++ following (annotate doc draft w) fun annotated told =>
    told.askedToResolve engine.resolver annotated.plainText draft.settings

theorem tells_recognize (engine : Engine) (doc : Document) (draft : Draft) :
    (recognize engine doc draft).Tells [2, 3, 4, 5, 7, 8]
      fun w : Workspace σ => w.askedToRecognize engine doc draft :=
  (tells_annotate doc draft).bind (by decide) fun annotated =>
    tells_resolve engine.resolver annotated.plainText draft.settings

/-! ## Lists -/

/-- What is asked for the list of a code: the loader of the cache, if the code is well
formed and no list of it is kept, and else nobody. -/
def askedForWords (w : Workspace σ) (cache : Nat) (code : String) : List Asked :=
  if WordList.isCode code = true ∧ (w.caches.row cache).find? code = none then
    match w.config.nameOf code with
    | .ok name =>
      [⟨.load (.text name),
        faultOf ((w.caches.row cache).loader.load (.text name) w.surroundings).result⟩]
    | .error _ => []
  else []

/-- A loader's fault is that of reading, unless the list only could not be read. -/
theorem heeded_wordsIn (config : Config) (name : String)
    (loaded : Except Fault (Option Text.Octets)) :
    Heeded (faultOf (config.wordsIn loaded)) [⟨.load (.text name), faultOf loaded⟩] := by
  cases loaded with
  | ok _ => trivial
  | error fault =>
      refine ⟨rfl, fun hforgiven => ?_⟩
      have hfalse : fault.isReadFailure = false := hforgiven
      rw [Config.wordsIn, hfalse]
      rfl

theorem tells_words (cache : Nat) (code : String) :
    (words cache code).Tells [9] fun w : Workspace σ => w.askedForWords cache code := by
  intro w
  show (words cache code w).Tells [9] (w.askedForWords cache code)
  rw [askedForWords]
  cases hcode : WordList.isCode code with
  | false =>
      rw [if_neg fun h => Bool.false_ne_true h.1, words_of_not_isCode cache hcode]
      exact ⟨rfl, List.nil_sublist _, trivial⟩
  | true =>
      cases hfind : (w.caches.row cache).find? code with
      | some list =>
          rw [if_neg fun h => Option.some_ne_none _ h.2, words_of_kept hcode hfind]
          exact ⟨rfl, List.nil_sublist _, trivial⟩
      | none =>
          have hcalls := Cache.calls_readList w.config (w.caches.row cache).loader code
            w.surroundings
          rw [if_pos ⟨rfl, rfl⟩, words_of_missing hcode hfind, Cache.listRead]
          cases hname : w.config.nameOf code with
          | error fault =>
              rw [hname] at hcalls
              exact ⟨hcalls, List.nil_sublist _, trivial⟩
          | ok name =>
              rw [hname] at hcalls
              exact ⟨hcalls, .refl _, heeded_wordsIn w.config name _⟩

def askedForList (w : Workspace σ) (cache : Nat) (language : Value) : List Asked :=
  match language.text? with
  | none => []
  | some code => w.askedForWords cache code

theorem tells_wordsOf (cache : Nat) (language : Value) :
    (wordsOf cache language).Tells [9] fun w : Workspace σ => w.askedForList cache language := by
  unfold wordsOf askedForList
  cases language.text? with
  | none => exact (Action.AsksNobody.tells fun _ => rfl).mono (List.nil_sublist _)
  | some code => exact tells_words cache code

def askedForCandidates (w : Workspace σ) (cache : Nat) (draft : Draft) (cursor language : Value) :
    List Asked :=
  match wordIn draft.code cursor with
  | .error _ => []
  | .ok word => if word.isEmpty then [] else w.askedForList cache language

theorem tells_candidates (cache : Nat) (draft : Draft) (cursor language : Value) :
    (candidates cache draft cursor language).Tells [9] fun w : Workspace σ =>
      w.askedForCandidates cache draft cursor language := by
  unfold candidates askedForCandidates
  cases wordIn draft.code cursor with
  | error fault => exact (Action.AsksNobody.tells fun _ => rfl).mono (List.nil_sublist _)
  | ok word =>
      show (if word.isEmpty then _ else _ : Action (Workspace σ) _).Tells _
        fun w => if word.isEmpty then [] else w.askedForList cache language
      cases word.isEmpty with
      | true => exact (Action.AsksNobody.tells fun _ => rfl).mono (List.nil_sublist _)
      | false =>
          refine (tells_wordsOf cache language).bind_nobody fun listed => ?_
          split
          · exact fun _ => rfl
          · exact Action.AsksNobody.bind (fun _ => rfl) fun own =>
              Action.AsksNobody.bind (fun _ => rfl) fun others =>
                Action.AsksNobody.bind (fun _ => rfl) fun _ _ => rfl

/-! ## Requests -/

def askedAbout (engine : Engine) (doc : Document) (draft : Draft) (cursor : Value)
    (w : Workspace σ) : List Asked :=
  w.askedToRecognize engine doc draft ++
    following (recognize engine doc draft w) fun language? known =>
      match language? with
      | none => []
      | some language => known.askedForCandidates engine.cache draft cursor language

theorem tells_completeIn (engine : Engine) (doc : Document) (draft : Draft) (cursor : Value) :
    (completeIn engine doc draft cursor).Tells [2, 3, 4, 5, 7, 8, 9]
      (askedAbout (σ := σ) engine doc draft cursor) := by
  rw [completeIn_eq]
  refine (tells_recognize engine doc draft).bind (by decide) fun language? => ?_
  cases language? with
  | none => exact (Action.AsksNobody.tells fun _ => rfl).mono (List.nil_sublist _)
  | some language => exact tells_candidates _ _ _ _

/-- What a request asks whose position has an offset. -/
def asked (engine : Engine) (doc : Document) (o : Nat) (w : Workspace σ) : List Asked :=
  w.askedToSplit doc ++
    match w.found? doc o with
    | none => []
    | some (draft, cursor) => askedAbout engine doc draft cursor (fragmentize doc w).state

def askedAmong (engine : Engine) (doc : Document) (o : Nat) (drafts : List Draft)
    (split : Workspace σ) : List Asked :=
  match Draft.locate drafts (.int o) with
  | .error _ => []
  | .ok none => []
  | .ok (some (draft, cursor)) => askedAbout engine doc draft cursor split

/-- The stage that looks for a draft asks nobody. -/
theorem asked_eq_among (engine : Engine) (doc : Document) (o : Nat) (w : Workspace σ) :
    asked engine doc o w =
      w.askedToSplit doc ++ following (fragmentize doc w) (askedAmong engine doc o) := by
  rw [asked, found?, following]
  cases (fragmentize doc w).result with
  | error fault => rfl
  | ok drafts =>
      simp only [askedAmong]
      cases Draft.locate drafts (.int o) with
      | error misfit => rfl
      | ok found? => cases found? <;> rfl

theorem tells_complete (engine : Engine) {doc : Document} {position : Position} {o : Nat}
    (hoffset : doc.offsetAt position = .ok o) :
    (complete engine doc position).Tells [0, 1, 2, 3, 4, 5, 7, 8, 9]
      (asked (σ := σ) engine doc o) := by
  have hasked : asked (σ := σ) engine doc o = fun w =>
      w.askedToSplit doc ++ following (fragmentize doc w) (askedAmong engine doc o) :=
    funext (asked_eq_among engine doc o)
  rw [complete, hoffset, hasked]
  refine (tells_fragmentize doc).bind (by decide) fun drafts => ?_
  unfold askedAmong
  cases Draft.locate drafts (.int o) with
  | error misfit => exact (Action.AsksNobody.tells fun _ => rfl).mono (List.nil_sublist _)
  | ok found? =>
      cases found? with
      | none => exact (Action.AsksNobody.tells fun _ => rfl).mono (List.nil_sublist _)
      | some found => exact tells_completeIn engine doc found.1 found.2

/-! ## Which calls are made -/

def builderFor (w : Workspace σ) (doc : Document) (draft : Draft) : Outcome σ (Builder σ) :=
  Builder.make w.config w.builders draft.languageId (fragmentize doc w).state.surroundings.host

/-- When a request makes which call, and with what. -/
structure Makes (engine : Engine) (doc : Document) (o : Nat) (w : Workspace σ)
    (calls : List Call) : Prop where
  /-- A fragmentizer is made if a factory is registered for the dialect of the document. -/
  makeFragmentizer : ∀ languageId, .makeFragmentizer languageId ∈ calls ↔
    (∃ factory, w.fragmentizers.lookUp doc.languageId = .ok (some factory)) ∧
      languageId = doc.languageId
  /-- The document is split if its dialect has a fragmentizer. -/
  split : ∀ text settings, .fragmentize text settings ∈ calls ↔
    (∃ fragmentizer, (Fragmentizer.make w.config w.fragmentizers doc.languageId
      w.surroundings.host).result = .ok fragmentizer) ∧ text = doc.text ∧ settings = doc.settings
  /-- A builder is made if a fragment was found and a factory is registered for its
  dialect. -/
  makeBuilder : ∀ languageId, .makeBuilder languageId ∈ calls ↔
    ∃ draft cursor, w.found? doc o = some (draft, cursor) ∧
      (∃ factory, w.builders.lookUp draft.languageId = .ok (some factory)) ∧
      languageId = draft.languageId
  /-- A builder is configured if a fragment was found and its dialect has a builder. -/
  configure : ∀ settings, .configure settings ∈ calls ↔
    ∃ draft cursor builder, w.found? doc o = some (draft, cursor) ∧
      (w.builderFor doc draft).result = .ok builder ∧ settings = draft.settings
  /-- It is fed if it was configured. -/
  feed : ∀ code, .feed code ∈ calls ↔
    ∃ draft cursor builder, w.found? doc o = some (draft, cursor) ∧
      (w.builderFor doc draft).result = .ok builder ∧
      (builder.tell draft.settings (w.builderFor doc draft).state).result = .ok () ∧
      code = draft.code
  /-- It builds if it was fed. -/
  build : .build ∈ calls ↔
    ∃ draft cursor builder, w.found? doc o = some (draft, cursor) ∧
      (w.builderFor doc draft).result = .ok builder ∧
      (builder.tell draft.settings (w.builderFor doc draft).state).result = .ok () ∧
      (builder.give draft.code
        (builder.tell draft.settings (w.builderFor doc draft).state).state).result = .ok ()
  /-- No detector is made. -/
  makeDetector : .makeDetector ∉ calls
  /-- The detector cleans the plain text if there is one and the settings of the fragment
  ask for detection. -/
  clean : ∀ text, .clean text ∈ calls ↔
    ∃ draft cursor annotated detector, w.found? doc o = some (draft, cursor) ∧
      (annotate doc draft (fragmentize doc w).state).result = .ok annotated ∧
      w.config.asksForDetection draft.settings.language = true ∧
      (w.resolvers.row engine.resolver).detector = some detector ∧ text = annotated.plainText
  /-- It detects in what it cleaned. -/
  detect : ∀ text allow disallow, .detect text allow disallow ∈ calls ↔
    ∃ draft cursor annotated detector, w.found? doc o = some (draft, cursor) ∧
      (annotate doc draft (fragmentize doc w).state).result = .ok annotated ∧
      w.config.asksForDetection draft.settings.language = true ∧
      (w.resolvers.row engine.resolver).detector = some detector ∧
      (detector.clean annotated.plainText
        (annotate doc draft (fragmentize doc w).state).state.surroundings.host).answer =
          .ok text ∧ allow = [] ∧ disallow = []
  /-- A list is loaded if the language is known, there is a word, and the language is a
  code of which no list is kept. -/
  load : ∀ name, .load name ∈ calls ↔
    ∃ draft cursor language word code resource, w.found? doc o = some (draft, cursor) ∧
      (recognize engine doc draft (fragmentize doc w).state).result = .ok (some language) ∧
      wordIn draft.code cursor = .ok word ∧ word.isEmpty = false ∧
      language.text? = some code ∧ WordList.isCode code = true ∧
      (w.caches.row engine.cache).find? code = none ∧
      w.config.nameOf code = .ok resource ∧ name = .text resource

section Membership

variable {γ : Type} {f : Asked → γ} {c : γ} {engine : Engine} {doc : Document} {w : Workspace σ}

/-- What is asked to split the document, or about the draft that was found. -/
theorem mem_map_asked {o : Nat} :
    c ∈ (asked engine doc o w).map f ↔
      c ∈ (w.askedToSplit doc).map f ∨
        ∃ draft cursor, w.found? doc o = some (draft, cursor) ∧
          c ∈ (askedAbout engine doc draft cursor (fragmentize doc w).state).map f := by
  rw [asked, List.map_append, List.mem_append]
  cases w.found? doc o with
  | none => simp
  | some found => simp [Prod.ext_iff]

theorem mem_map_askedAbout {draft : Draft} {cursor : Value} :
    c ∈ (askedAbout engine doc draft cursor w).map f ↔
      c ∈ (w.askedToBuild draft).map f ∨
        (∃ annotated, (annotate doc draft w).result = .ok annotated ∧
          c ∈ ((annotate doc draft w).state.askedToResolve engine.resolver annotated.plainText
            draft.settings).map f) ∨
        ∃ language, (recognize engine doc draft w).result = .ok (some language) ∧
          c ∈ ((recognize engine doc draft w).state.askedForCandidates engine.cache draft cursor
            language).map f := by
  simp only [askedAbout, askedToRecognize, List.map_append, List.mem_append, mem_map_following,
    or_assoc]
  refine or_congr_right (or_congr_right ⟨?_, ?_⟩)
  · rintro ⟨language?, hlanguage, hmem⟩
    cases language? with
    | none => cases hmem
    | some language => exact ⟨language, hlanguage, hmem⟩
  · rintro ⟨language, hlanguage, hmem⟩
    exact ⟨some language, hlanguage, hmem⟩

end Membership

/-! The rank of a call says which stage made it, so a call of one stage is not looked for
in the lists of the others. -/

theorem rank_of_askedToSplit {doc : Document} {w : Workspace σ} {c : Call}
    (h : c ∈ (w.askedToSplit doc).map Asked.call) : c.rank ≤ 1 := by
  have hrank := (tells_fragmentize doc w).rank_mem h
  simp only [List.mem_cons, List.not_mem_nil, or_false] at hrank
  omega

theorem rank_of_askedToBuild {draft : Draft} {w : Workspace σ} {c : Call}
    (h : c ∈ (w.askedToBuild draft).map Asked.call) : 2 ≤ c.rank ∧ c.rank ≤ 5 := by
  have hrank := (tells_annotate ⟨"", .null, {}⟩ draft w).rank_mem h
  simp only [List.mem_cons, List.not_mem_nil, or_false] at hrank
  omega

theorem rank_of_askedToResolve {resolver : Nat} {plainText : Value} {settings : Settings}
    {w : Workspace σ} {c : Call}
    (h : c ∈ (w.askedToResolve resolver plainText settings).map Asked.call) :
    7 ≤ c.rank ∧ c.rank ≤ 8 := by
  have hrank := (tells_resolve resolver plainText settings w).rank_mem h
  simp only [List.mem_cons, List.not_mem_nil, or_false] at hrank
  omega

theorem rank_of_askedForCandidates {cache : Nat} {draft : Draft} {cursor language : Value}
    {w : Workspace σ} {c : Call}
    (h : c ∈ (w.askedForCandidates cache draft cursor language).map Asked.call) : c.rank = 9 :=
  List.mem_singleton.mp ((tells_candidates cache draft cursor language w).rank_mem h)

theorem mem_askedToSplit {doc : Document} {w : Workspace σ} {c : Call} :
    c ∈ (w.askedToSplit doc).map Asked.call ↔
      (∃ factory, w.fragmentizers.lookUp doc.languageId = .ok (some factory)) ∧
          c = .makeFragmentizer doc.languageId ∨
        (∃ fragmentizer, (Fragmentizer.make w.config w.fragmentizers doc.languageId
          w.surroundings.host).result = .ok fragmentizer) ∧
            c = .fragmentize doc.text doc.settings := by
  simp only [askedToSplit, Document.asked, List.map_append, List.mem_append, mem_map_following,
    Registry.mem_asked, Action.mem_once, exists_and_right]

theorem mem_askedToBuild {doc : Document} {draft : Draft} {w : Workspace σ} {c : Call} :
    c ∈ ((fragmentize doc w).state.askedToBuild draft).map Asked.call ↔
      (∃ factory, w.builders.lookUp draft.languageId = .ok (some factory)) ∧
          c = .makeBuilder draft.languageId ∨
        ∃ builder, (w.builderFor doc draft).result = .ok builder ∧
          c ∈ (builder.asked draft.settings draft.code
            (w.builderFor doc draft).state).map Asked.call := by
  have hsplit := keeps_fragmentize doc w
  rw [askedToBuild, Draft.asked, hsplit.config, hsplit.builders, List.map_append, List.mem_append,
    mem_map_following, Registry.mem_asked]
  rfl

theorem mem_askedToResolve {resolver : Nat} {plainText : Value} {settings : Settings}
    {w : Workspace σ} {c : Call} :
    c ∈ (w.askedToResolve resolver plainText settings).map Asked.call ↔
      w.config.asksForDetection settings.language = true ∧
        ∃ detector, (w.resolvers.row resolver).detector = some detector ∧
          c ∈ (detector.asked plainText w.surroundings.host).map Asked.call := by
  rw [askedToResolve, Resolver.asked]
  cases w.config.asksForDetection settings.language with
  | false => simp
  | true => cases (w.resolvers.row resolver).detector <;> simp

theorem mem_askedForWords {cache : Nat} {code : String} {w : Workspace σ} {a : Asked} :
    a ∈ w.askedForWords cache code ↔
      (WordList.isCode code = true ∧ (w.caches.row cache).find? code = none) ∧
        ∃ resource, w.config.nameOf code = .ok resource ∧
          a = ⟨.load (.text resource), faultOf
            ((w.caches.row cache).loader.load (.text resource) w.surroundings).result⟩ := by
  rw [askedForWords]
  split
  · next h => cases w.config.nameOf code <;> simp [h]
  · next h => exact ⟨fun hmem => absurd hmem List.not_mem_nil, fun hmem => absurd hmem.1 h⟩

theorem mem_askedForCandidates {cache : Nat} {draft : Draft} {cursor language : Value}
    {w : Workspace σ} {a : Asked} :
    a ∈ w.askedForCandidates cache draft cursor language ↔
      ∃ word code, wordIn draft.code cursor = .ok word ∧ word.isEmpty = false ∧
        language.text? = some code ∧ a ∈ w.askedForWords cache code := by
  rw [askedForCandidates, askedForList]
  cases wordIn draft.code cursor with
  | error fault => simp
  | ok word => cases hempty : word.isEmpty <;> cases language.text? <;> simp [hempty]

/-! ## The calls of each collaborator -/

section Collaborators

variable {engine : Engine} {doc : Document} {o : Nat} {w : Workspace σ} {c : Call}

theorem mem_asked_fragmentizer (hc : c.rank ≤ 1) :
    c ∈ (asked engine doc o w).map Asked.call ↔ c ∈ (w.askedToSplit doc).map Asked.call := by
  rw [mem_map_asked]
  refine or_iff_left ?_
  rintro ⟨draft, cursor, -, hmem⟩
  rcases mem_map_askedAbout.mp hmem with hmem | ⟨_, -, hmem⟩ | ⟨_, -, hmem⟩
  · have := rank_of_askedToBuild hmem
    omega
  · have := rank_of_askedToResolve hmem
    omega
  · have := rank_of_askedForCandidates hmem
    omega

theorem mem_asked_builder (hc : 2 ≤ c.rank ∧ c.rank ≤ 5) :
    c ∈ (asked engine doc o w).map Asked.call ↔
      ∃ draft cursor, w.found? doc o = some (draft, cursor) ∧
        c ∈ ((fragmentize doc w).state.askedToBuild draft).map Asked.call := by
  rw [mem_map_asked]
  constructor
  · rintro (hmem | ⟨draft, cursor, hfound, hmem⟩)
    · have := rank_of_askedToSplit hmem
      omega
    · rcases mem_map_askedAbout.mp hmem with hmem | ⟨_, -, hmem⟩ | ⟨_, -, hmem⟩
      · exact ⟨draft, cursor, hfound, hmem⟩
      · have := rank_of_askedToResolve hmem
        omega
      · have := rank_of_askedForCandidates hmem
        omega
  · rintro ⟨draft, cursor, hfound, hmem⟩
    exact .inr ⟨draft, cursor, hfound, mem_map_askedAbout.mpr (.inl hmem)⟩

theorem makeDetector_not_mem_asked :
    .makeDetector ∉ (asked engine doc o w).map Asked.call := by
  have hsix : Call.makeDetector.rank = 6 := rfl
  rw [mem_map_asked]
  rintro (hmem | ⟨draft, cursor, -, hmem⟩)
  · have := rank_of_askedToSplit hmem
    omega
  · rcases mem_map_askedAbout.mp hmem with hmem | ⟨_, -, hmem⟩ | ⟨_, -, hmem⟩
    · have := rank_of_askedToBuild hmem
      omega
    · have := rank_of_askedToResolve hmem
      omega
    · have := rank_of_askedForCandidates hmem
      omega

theorem mem_asked_detector (hc : 7 ≤ c.rank ∧ c.rank ≤ 8) :
    c ∈ (asked engine doc o w).map Asked.call ↔
      ∃ draft cursor annotated detector, w.found? doc o = some (draft, cursor) ∧
        (annotate doc draft (fragmentize doc w).state).result = .ok annotated ∧
        w.config.asksForDetection draft.settings.language = true ∧
        (w.resolvers.row engine.resolver).detector = some detector ∧
        c ∈ (detector.asked annotated.plainText
          (annotate doc draft (fragmentize doc w).state).state.surroundings.host).map
            Asked.call := by
  have hresolve (draft : Draft) (plainText : Value) :
      c ∈ ((annotate doc draft (fragmentize doc w).state).state.askedToResolve engine.resolver
          plainText draft.settings).map Asked.call ↔
        w.config.asksForDetection draft.settings.language = true ∧
          ∃ detector, (w.resolvers.row engine.resolver).detector = some detector ∧
            c ∈ (detector.asked plainText
              (annotate doc draft (fragmentize doc w).state).state.surroundings.host).map
                Asked.call := by
    have hkept := (keeps_fragmentize doc w).trans (keeps_annotate doc draft _)
    rw [mem_askedToResolve, hkept.config, hkept.detector]
  rw [mem_map_asked]
  constructor
  · rintro (hmem | ⟨draft, cursor, hfound, hmem⟩)
    · have := rank_of_askedToSplit hmem
      omega
    · rcases mem_map_askedAbout.mp hmem with hmem | ⟨annotated, hannotated, hmem⟩ | ⟨_, -, hmem⟩
      · have := rank_of_askedToBuild hmem
        omega
      · obtain ⟨hasks, detector, hdetector, hmem⟩ := (hresolve draft _).mp hmem
        exact ⟨draft, cursor, annotated, detector, hfound, hannotated, hasks, hdetector, hmem⟩
      · have := rank_of_askedForCandidates hmem
        omega
  · rintro ⟨draft, cursor, annotated, detector, hfound, hannotated, hasks, hdetector, hmem⟩
    exact .inr ⟨draft, cursor, hfound, mem_map_askedAbout.mpr (.inr (.inl
      ⟨annotated, hannotated, (hresolve draft _).mpr ⟨hasks, detector, hdetector, hmem⟩⟩))⟩

theorem mem_asked_loader {a : Asked} (ha : a.call.rank = 9) :
    a ∈ asked engine doc o w ↔
      ∃ draft cursor language word code, w.found? doc o = some (draft, cursor) ∧
        (recognize engine doc draft (fragmentize doc w).state).result = .ok (some language) ∧
        wordIn draft.code cursor = .ok word ∧ word.isEmpty = false ∧
        language.text? = some code ∧
        a ∈ (recognize engine doc draft (fragmentize doc w).state).state.askedForWords
          engine.cache code := by
  rw [← List.map_id (asked engine doc o w), mem_map_asked]
  constructor
  · rintro (hmem | ⟨draft, cursor, hfound, hmem⟩)
    · rw [List.map_id] at hmem
      have := rank_of_askedToSplit (List.mem_map_of_mem hmem)
      omega
    · rcases mem_map_askedAbout.mp hmem with hmem | ⟨_, -, hmem⟩ | ⟨language, hlanguage, hmem⟩
      all_goals rw [List.map_id] at hmem
      · have := rank_of_askedToBuild (List.mem_map_of_mem hmem)
        omega
      · have := rank_of_askedToResolve (List.mem_map_of_mem hmem)
        omega
      · obtain ⟨word, code, hword, hsome, hcode, hmem⟩ := mem_askedForCandidates.mp hmem
        exact ⟨draft, cursor, language, word, code, hfound, hlanguage, hword, hsome, hcode, hmem⟩
  · rintro ⟨draft, cursor, language, word, code, hfound, hlanguage, hword, hsome, hcode, hmem⟩
    refine .inr ⟨draft, cursor, hfound, mem_map_askedAbout.mpr (.inr (.inr
      ⟨language, hlanguage, ?_⟩))⟩
    rw [List.map_id]
    exact mem_askedForCandidates.mpr ⟨word, code, hword, hsome, hcode, hmem⟩

end Collaborators

theorem makes_asked (engine : Engine) (doc : Document) (o : Nat) (w : Workspace σ) :
    w.Makes engine doc o ((asked engine doc o w).map Asked.call) where
  makeFragmentizer languageId := by
    rw [mem_asked_fragmentizer (by simp [Call.rank]), mem_askedToSplit]
    simp
  split text settings := by
    rw [mem_asked_fragmentizer (by simp [Call.rank]), mem_askedToSplit]
    simp
  makeBuilder languageId := by
    rw [mem_asked_builder (by simp [Call.rank])]
    simp [mem_askedToBuild, Builder.mem_asked]
  configure settings := by
    rw [mem_asked_builder (by simp [Call.rank])]
    simp [mem_askedToBuild, Builder.mem_asked]
  feed code := by
    rw [mem_asked_builder (by simp [Call.rank])]
    simp [mem_askedToBuild, Builder.mem_asked]
  build := by
    rw [mem_asked_builder (by simp [Call.rank])]
    simp [mem_askedToBuild, Builder.mem_asked]
  makeDetector := makeDetector_not_mem_asked
  clean text := by
    rw [mem_asked_detector (by simp [Call.rank])]
    simp [Detector.mem_asked]
  detect text allow disallow := by
    rw [mem_asked_detector (by simp [Call.rank])]
    simp [Detector.mem_asked]
  load name := by
    have hkept (draft : Draft) :=
      (keeps_fragmentize doc w).trans (keeps_recognize engine doc draft _)
    constructor
    · intro hmem
      obtain ⟨a, ha, hcall⟩ := List.mem_map.mp hmem
      obtain ⟨draft, cursor, language, word, code, hfound, hlanguage, hword, hsome, htext, hlist⟩ :=
        (mem_asked_loader (by rw [hcall]; rfl)).mp ha
      obtain ⟨⟨hcode, hmissing⟩, resource, hname, rfl⟩ := mem_askedForWords.mp hlist
      rw [(hkept draft).caches] at hmissing
      rw [(hkept draft).config] at hname
      exact ⟨draft, cursor, language, word, code, resource, hfound, hlanguage, hword, hsome, htext,
        hcode, hmissing, hname, (Call.load.inj hcall).symm⟩
    · rintro ⟨draft, cursor, language, word, code, resource, hfound, hlanguage, hword, hsome, htext,
        hcode, hmissing, hname, rfl⟩
      rw [← (hkept draft).caches] at hmissing
      rw [← (hkept draft).config] at hname
      refine List.mem_map.mpr ⟨_, (mem_asked_loader ?_).mpr ⟨draft, cursor, language, word, code,
        hfound, hlanguage, hword, hsome, htext,
        mem_askedForWords.mpr ⟨⟨hcode, hmissing⟩, resource, hname, rfl⟩⟩, rfl⟩
      rfl

theorem result_complete_of_forgiven {engine : Engine} {doc : Document} {position : Position}
    {o : Nat} {w : Workspace σ} (hoffset : doc.offsetAt position = .ok o) {a : Asked}
    (ha : a ∈ asked engine doc o w) (hforgiven : a.isForgiven = true) :
    ∃ draft cursor word, w.found? doc o = some (draft, cursor) ∧
      wordIn draft.code cursor = .ok word ∧
      (complete engine doc position w).result =
        candidatesOf word draft.settings.dictionary (.ok []) := by
  obtain ⟨_, fault, hcall, hfault, hread⟩ := Asked.exists_of_isForgiven hforgiven
  obtain ⟨draft, cursor, language, word, code, hfound, hlanguage, hword, -, htext, hlist⟩ :=
    (mem_asked_loader (by rw [hcall]; rfl)).mp ha
  obtain ⟨⟨hcode, hmissing⟩, resource, hname, rfl⟩ := mem_askedForWords.mp hlist
  have hloaded := faultOf_eq_some_iff.mp hfault
  have hlisted : (recognize engine doc draft (fragmentize doc w).state).state.listedNow
      engine.cache language = .ok [] := by
    rw [listedNow, htext]
    simp only
    rw [Cache.listNow, if_pos hcode, hmissing]
    simp only
    rw [Cache.listRead, hname]
    show Config.wordsIn _ _ = _
    rw [hloaded, Config.wordsIn, if_pos hread]
  refine ⟨draft, cursor, word, hfound, hword, ?_⟩
  rw [result_complete_of_found hoffset hfound, result_completeIn_of_known hlanguage,
    result_candidates_eq, hword, hlisted]
  rfl

/-- **The calls of a request.** The position has an offset. Calls are made when, and
only when, what comes before calls for them, in the order of their ranks, and so none
of them twice. A call that ends in a fault is the last, and the request ends in that
fault, unless it is only a list that could not be read: then the request goes on as
with a list without words. Where the document was split into fragments, one is found
if some fragment covers the offset. -/
theorem complete_asks (engine : Engine) (doc : Document) (line character : Int)
    (w : Workspace σ) :
    ∃ o : Nat, doc.offsetAt (Position.of line character) = .ok o ∧
      let outcome := complete engine doc (Position.of line character) w
      let asked := asked engine doc o w
      Event.calls outcome.events = asked.map Asked.call ∧
      w.Makes engine doc o (Event.calls outcome.events) ∧
      (Event.calls outcome.events).Pairwise (fun c d => c.rank < d.rank) ∧
      (∀ before a behind fault, asked = before ++ a :: behind → a.fault? = some fault →
        behind = [] ∧ (a.isForgiven = false → outcome.result = .error fault) ∧
        (a.isForgiven = true → ∃ draft cursor word, w.found? doc o = some (draft, cursor) ∧
          wordIn draft.code cursor = .ok word ∧
          outcome.result = candidatesOf word draft.settings.dictionary (.ok []))) ∧
      ∀ fragments : List Fragment,
        (fragmentize doc w).result = .ok (fragments.map Fragment.draft) →
          ((w.found? doc o).isSome = true ↔ ∃ f ∈ fragments, f.contains o = true) := by
  obtain ⟨o, hoffset, -⟩ := Document.exists_offsetAt doc line character
  obtain ⟨hcalls, horder, hheeded⟩ := tells_complete engine hoffset w
  refine ⟨o, hoffset, hcalls, ?_, ?_, fun before a behind fault hsplit hfault => ?_,
    fun fragments hsplit => ?_⟩
  · rw [hcalls]
    exact makes_asked engine doc o w
  · have hpairwise : ([0, 1, 2, 3, 4, 5, 7, 8, 9] : List Nat).Pairwise (· < ·) := by decide
    rw [hcalls, List.pairwise_map]
    exact List.pairwise_map.mp (hpairwise.sublist horder)
  · obtain ⟨hlast, hended⟩ := hheeded.of_split hsplit hfault
    have ha : a ∈ asked engine doc o w := by
      rw [hsplit]
      exact List.mem_append_right _ List.mem_cons_self
    exact ⟨hlast, fun hforgiven => faultOf_eq_some_iff.mp (hended hforgiven),
      result_complete_of_forgiven hoffset ha⟩
  · rw [found?_of_split hsplit, Option.isSome_map, Option.isSome_iff_ne_none, Ne,
      Fragment.locate_eq_none_iff]
    simp

/-- A builder that is in trouble when it is fed is not asked to build, and nobody is
asked for a list. -/
example :
    let trouble : Trouble := ⟨.other "ValueError", "no markup"⟩
    let factory : Builder.Factory Unit := fun _ =>
      ⟨.ok (.custom (fun _ => Host.pure ()) (fun _ _ => ⟨.error trouble, (), ""⟩)
        fun _ => ⟨.ok (.text ""), (), ""⟩), (), ""⟩
    let w : Workspace Unit :=
      { bundled := "lists", surroundings := { host := () },
        builders := Builder.initial.register (.text plaintext) factory }
    let outcome := complete ⟨0, 0⟩ ⟨"a tr.", .text plaintext, Settings.of "en" ["tree"]⟩
      (Position.of 0 4) w
    (Event.calls outcome.events).map Call.rank = [0, 1, 2, 3, 4] ∧
      outcome.result = .error (.collaborator trouble) := by
  decide +kernel

end Typeahead.Workspace
