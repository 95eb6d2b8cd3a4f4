import CallAtlas.Proofs.Explorer.Confluence
import CallAtlas.Proofs.Explorer.Origin

namespace CallAtlas.Explorer

open Http (Endpoint)
open Relation (ReflTransGen)

def loadedFile (reply : Replies) (path : Json) : Except Failure LoadedFile := do
  let file ← received reply ⟨.file path, .pending⟩
  let functions ← received reply ⟨.fileFunctions path, .pending⟩
  fileOf path file functions

/-- Two answers that are no failures can be read. -/
def Readable (reply : Replies) (path : Json) : Prop :=
  ∀ file functions, reply .file = .ok file → reply .fileFunctions = .ok functions →
    ∃ loaded : LoadedFile, loaded.Joins path file functions

/-- What a load of a file comes to: nothing if one of its two requests fails, and otherwise the file
that the two answers make. -/
structure FileLoadsTo (reply : Replies) (path : Json) (shown : Option LoadedFile) : Prop where
  failed : ∀ call ∈ [Client.Call.file path, .fileFunctions path], ∀ e,
    received reply ⟨call, .pending⟩ = .error e → shown = none
  joined : ∀ file functions, received reply ⟨.file path, .pending⟩ = .ok file →
    received reply ⟨.fileFunctions path, .pending⟩ = .ok functions →
    ∃ loaded : LoadedFile, loaded.Joins path file functions ∧ shown = some loaded

section LoadedFile

variable {reply : Replies} {path : Json}

theorem toOption_loadedFile_of_error {f : Fetch} {e : Failure} (hf : f ∈ fileFetches path)
    (h : received reply f = .error e) : (loadedFile reply path).toOption = none := by
  simp only [fileFetches, List.mem_cons, List.not_mem_nil, or_false] at hf
  unfold loadedFile
  rcases hf with rfl | rfl
  · rw [h]
    rfl
  · cases received reply ⟨.file path, .pending⟩ with
    | error _ => rfl
    | ok _ =>
      rw [h]
      rfl

theorem loadedFile_of_ok (hwritable : ∀ f ∈ fileFetches path, f.unwritable? = none)
    {file functions : Json} (hfile : reply .file = .ok file)
    (hfunctions : reply .fileFunctions = .ok functions) :
    loadedFile reply path = fileOf path file functions := by
  have h₁ := hwritable ⟨.file path, .pending⟩ (by simp [fileFetches])
  have h₂ := hwritable ⟨.fileFunctions path, .pending⟩ (by simp [fileFetches])
  unfold loadedFile
  rw [received_of_writable h₁, received_of_writable h₂]
  simp only [Fetch.endpoint, Client.Call.endpoint]
  rw [hfile, hfunctions]
  rfl

theorem fileLoadsTo_loadedFile (hreadable : Readable reply path) :
    FileLoadsTo reply path (loadedFile reply path).toOption where
  failed := by
    intro call hcall e he
    refine toOption_loadedFile_of_error (f := ⟨call, .pending⟩) ?_ he
    simpa [fileFetches] using hcall
  joined := by
    intro file functions hfile hfunctions
    obtain ⟨loaded, hjoins⟩ :=
      hreadable _ _ (reply_of_received hfile) (reply_of_received hfunctions)
    refine ⟨loaded, hjoins, ?_⟩
    rw [loadedFile, hfile, hfunctions]
    exact congrArg Except.toOption (fileOf_eq_ok_iff.mpr hjoins)

end LoadedFile

/-- A task has published a file, joined from what its own two calls have brought. -/
structure Task.PublishesFile (t : Task) (d : FileDisplay) : Prop where
  published : t.outcome = .published
  joined : ∃ path file functions, t.stage = .file d.generation path ∧ t.Holds (.file path) file ∧
    t.Holds (.fileFunctions path) functions ∧ fileOf path file functions = .ok d.file

theorem Stage.Asks.of_file {g : Nat} {path : Json} {calls : List Client.Call}
    (h : (Stage.file g path).Asks calls) : calls = [.file path, .fileFunctions path] := by
  cases h
  rfl

namespace State

variable {setup : Setup} {event : Event} {s s' : State} {i j : Nat} {t : Task}

theorem file_clear (s : State) (t : Task) :
    (s.clear t).file = s.file ∨
      (s.clear t).file = none ∧ ∃ path, t.stage = .file s.fileGeneration path := by
  unfold clear
  split
  · exact Or.inl rfl
  · split <;> exact Or.inl rfl
  · rename_i g path hstage
    split
    · rename_i hg
      exact Or.inr ⟨rfl, path, hg ▸ hstage⟩
    · exact Or.inl rfl

theorem fileGeneration_clear (s : State) (t : Task) :
    (s.clear t).fileGeneration = s.fileGeneration := by
  unfold clear
  split <;> (try split) <;> rfl

theorem fileGeneration_fail (s : State) (i : Nat) (t : Task) (e : Failure) :
    ((s.clear t).fail i t e).fileGeneration = s.fileGeneration :=
  fileGeneration_clear s t

theorem Acts.file_cases (h : Acts setup event i s s') (hs : s.Healthy) :
    s'.file = s.file ∨ ∃ t path, s'.task? i = some t ∧ t.isPending = false ∧
      t.stage = .file s'.fileGeneration path ∧ ∀ d, s'.file = some d → t.PublishesFile d := by
  cases h with
  | fail ht | drop ht =>
    rcases file_clear s _ with hsame | ⟨hnone, path, hstage⟩
    · exact Or.inl hsame
    · refine Or.inr ⟨_, path, task?_fail ht _ _, rfl, ?_, fun d hd => ?_⟩
      · rw [fileGeneration_fail]
        exact hstage
      · rw [State.fail, replace, hnone] at hd
        contradiction
  | @publishFile t fetches path file ht hopen hstage hlast hfile =>
    have hunderway := hlast.underway (hs i t ht hopen)
    have hasks := hunderway.asks
    simp only [hstage] at hasks
    have hcalls := hasks.of_file
    have hholds (c : Client.Call) (hc : c ∈ [Client.Call.file path, .fileFunctions path]) :=
      (hunderway.answer hlast.2 (hcalls ▸ hc)).finish .published
    refine Or.inr ⟨_, path, task?_replace_self ht, rfl, hstage, fun d hd => ?_⟩
    obtain rfl := Option.some.inj hd
    exact ⟨rfl, path, _, _, hstage, hholds _ (by simp), hholds _ (by simp), hfile⟩
  | _ => exact Or.inl rfl

theorem Acts.file_origin (h : Acts setup event i s s') {g : Nat} {path : Json}
    (ht : s'.task? j = some t) (hstage : t.stage = .file g path) :
    (∃ u, s.task? j = some u ∧ u.stage = .file g path) ∨
      j = s.tasks.length ∧ g = s.fileGeneration + 1 ∧ s'.fileGeneration = g := by
  by_cases hj : j = i
  · subst hj
    cases h with
    | load hi hgraph =>
      subst hi
      obtain rfl := Option.some.inj (ht.symm.trans (task?_add_self _ _ _))
      subst hstage
      contradiction
    | loadFile hi =>
      subst hi
      obtain rfl := Option.some.inj (ht.symm.trans (task?_add_self _ _ _))
      cases hstage
      exact Or.inr ⟨rfl, rfl, rfl⟩
    | enter hu =>
      obtain rfl := Option.some.inj (ht.symm.trans (task?_replace_self hu))
      contradiction
    | wait hu | cancel hu | stale hu | refuse hu | publish hu | publishFile hu =>
      obtain rfl := Option.some.inj (ht.symm.trans (task?_replace_self hu))
      exact Or.inl ⟨_, hu, hstage⟩
    | fail hu | drop hu =>
      obtain rfl := Option.some.inj (ht.symm.trans (task?_fail hu _ _))
      exact Or.inl ⟨_, hu, hstage⟩
  · exact Or.inl ⟨t, h.task?_of_ne hj ▸ ht, hstage⟩

theorem Acts.fileGeneration_cases (h : Acts setup event i s s') :
    s'.fileGeneration = s.fileGeneration ∨
      s'.fileGeneration = s.fileGeneration + 1 ∧ ∃ path, event = .loadFile path := by
  cases h with
  | loadFile hi hbegins =>
    cases hbegins
    exact Or.inr ⟨rfl, _, rfl⟩
  | fail | drop => exact Or.inl (fileGeneration_fail _ _ _ _)
  | _ => exact Or.inl rfl

structure FilesOrdered (s : State) : Prop where
  bounded : ∀ i t g path, s.task? i = some t → t.stage = .file g path → g ≤ s.fileGeneration
  increasing : ∀ i j t u g g' path path', i < j → s.task? i = some t → s.task? j = some u →
    t.stage = .file g path → u.stage = .file g' path' → g < g'

/-- No file has been asked for since this task was started. -/
def LastFile (s : State) (i : Nat) : Prop :=
  ∀ j u, i < j → s.task? j = some u → u.stage.loadsGraph = true

theorem FilesOrdered.lastFile (h : s.FilesOrdered) {path : Json} (ht : s.task? i = some t)
    (hstage : t.stage = .file s.fileGeneration path) : s.LastFile i := by
  intro j u hij hu
  cases hu' : u.stage with
  | detail | graph => rfl
  | file g path' =>
    have hlt := h.increasing i j t u _ _ _ _ hij ht hu hstage hu'
    have hle := h.bounded j u _ _ hu hu'
    omega

theorem FilesOrdered.eq_of_generation (h : s.FilesOrdered) {u : Task} {g : Nat} {path path' : Json}
    (ht : s.task? i = some t) (hu : s.task? j = some u) (hstage : t.stage = .file g path)
    (hstage' : u.stage = .file g path') : i = j := by
  rcases Nat.lt_trichotomy i j with hlt | heq | hgt
  · exact absurd (h.increasing i j t u g g _ _ hlt ht hu hstage hstage') (Nat.lt_irrefl g)
  · exact heq
  · exact absurd (h.increasing j i u t g g _ _ hgt hu ht hstage' hstage) (Nat.lt_irrefl g)

theorem Acts.filesOrdered (h : Acts setup event i s s') (ho : s.FilesOrdered) :
    s'.FilesOrdered := by
  constructor
  · intro j t g path ht hstage
    rcases h.file_origin ht hstage with ⟨u, hu, hstage'⟩ | ⟨-, -, hg⟩
    · have hle := ho.bounded j u g path hu hstage'
      rcases h.fileGeneration_cases with hsame | ⟨hnext, -⟩ <;> omega
    · omega
  · intro j k t u g g' path path' hjk ht hu hstage hstage'
    rcases h.file_origin ht hstage with ⟨v, hv, hv'⟩ | ⟨hj, hg, -⟩ <;>
      rcases h.file_origin hu hstage' with ⟨w, hw, hw'⟩ | ⟨hk, hg', -⟩
    · exact ho.increasing j k v w g g' path path' hjk hv hw hv' hw'
    · have hle := ho.bounded j v g path hv hv'
      omega
    · have hlt := lt_length_of_task? hw
      omega
    · omega

def FileAttributed (s : State) : Prop :=
  ∀ d, s.file = some d → ∃ i t, s.task? i = some t ∧ t.PublishesFile d

theorem Acts.fileAttributed (h : Acts setup event i s s') (hs : s.Healthy)
    (ha : s.FileAttributed) : s'.FileAttributed := by
  intro d hd
  rcases h.file_cases hs with hsame | ⟨t, path, ht, -, -, hpublishes⟩
  · obtain ⟨j, t, ht, hpublishes⟩ := ha d (hsame ▸ hd)
    refine ⟨j, t, task?_of_ended (.single h) ht ?_, hpublishes⟩
    rw [Task.isPending, hpublishes.published]
  · exact ⟨i, t, ht, hpublishes d hd⟩

section Sequence

variable (h : ReflTransGen (Acts setup event i) s s')
include h

theorem filesOrdered_of_acts (ho : s.FilesOrdered) : s'.FilesOrdered := by
  induction h with
  | refl => exact ho
  | tail _ hact ih => exact hact.filesOrdered ih

theorem fileAttributed_of_acts (hs : s.Healthy) (ha : s.FileAttributed) : s'.FileAttributed := by
  induction h with
  | refl => exact ha
  | tail hacts hact ih => exact hact.fileAttributed (healthy_of_acts hacts hs) ih

theorem ends_of_file_ne (hs : s.Healthy) (hchange : s'.file ≠ s.file) :
    ∃ t path, Ends s s' i t ∧ t.stage = .file s'.fileGeneration path := by
  induction h with
  | refl => contradiction
  | @tail b c hacts hact ih =>
    rcases hact.file_cases (healthy_of_acts hacts hs) with hsame | ⟨t, path, ht, hended, hstage, -⟩
    · -- An earlier act would have ended the task, which could not have acted again.
      obtain ⟨t, -, ⟨ht, hended, -⟩, -⟩ := ih (hsame ▸ hchange)
      rw [hact.isPending ht] at hended
      contradiction
    · refine ⟨t, path, ⟨ht, hended, fun u hu => ?_⟩, hstage⟩
      by_contra hu'
      have hstays := task?_of_ended hacts hu (by simpa using hu')
      exact hu' (hact.isPending hstays)

theorem fileGeneration_of_acts (hevent : ∀ path, event ≠ .loadFile path) :
    s'.fileGeneration = s.fileGeneration := by
  induction h with
  | refl => rfl
  | tail _ hact ih =>
    rcases hact.fileGeneration_cases with hsame | ⟨-, path, hloads⟩
    · exact hsame.trans ih
    · exact absurd hloads (hevent path)

end Sequence

/-- What holds of files between two events of a run. -/
structure FilesSteady (s : State) : Prop extends Steady s where
  filesOrdered : s.FilesOrdered
  fileAttributed : s.FileAttributed

theorem FilesSteady.respond (h : s.FilesSteady) (setup : Setup) (event : Event) :
    (s.respond setup event).FilesSteady := by
  obtain ⟨hacts, -⟩ := respond_acts setup h.sent event
  exact ⟨h.toSteady.respond setup event, filesOrdered_of_acts hacts h.filesOrdered,
    fileAttributed_of_acts hacts h.healthy h.fileAttributed⟩

theorem filesSteady_run (setup : Setup) (events : List Event) :
    (({} : State).run setup events).FilesSteady := by
  induction events using List.reverseRecOn with
  | nil =>
    have hnone (i : Nat) (t : Task) : ({} : State).task? i ≠ some t := by simp [task?]
    refine ⟨steady_run setup [], ⟨fun i t g path ht => absurd ht (hnone i t),
      fun i j t u g g' path path' _ ht => absurd ht (hnone i t)⟩, fun d hd => ?_⟩
    contradiction
  | append_singleton events event ih =>
    rw [run_concat]
    exact ih.respond setup event

/-- Load `k` of a file is the latest, and waits for its answers or has left what they come to. -/
inductive FilePhase (reply : Replies) (path : Json) (k : Nat) (s : State) : Prop
  | gathering {t : Task} (ht : s.task? k = some t) (hopen : t.isPending = true)
    (hstage : t.stage = .file s.fileGeneration path)
    (hwritable : ∀ f ∈ fileFetches path, f.unwritable? = none)
    (hawaits : ∀ f ∈ t.fetches, Awaits reply f)
    (hsome : t.fetches.any Fetch.isPending = true) : FilePhase reply path k s
  | ended {t : Task} (ht : s.task? k = some t) (hended : t.isPending = false)
    (hstage : t.stage = .file s.fileGeneration path)
    (hfile : s.file.map FileDisplay.file = (loadedFile reply path).toOption) :
    FilePhase reply path k s

section FilePhase

variable {reply : Replies} {path : Json} {k : Nat}

theorem FilePhase.latest (h : FilePhase reply path k s) :
    ∃ t, s.task? k = some t ∧ t.stage = .file s.fileGeneration path := by
  cases h with
  | gathering ht hopen hstage | ended ht hended hstage => exact ⟨_, ht, hstage⟩

theorem FilePhase.congr (h : FilePhase reply path k s) (htask : s'.task? k = s.task? k)
    (hgeneration : s'.fileGeneration = s.fileGeneration) (hfile : s'.file = s.file) :
    FilePhase reply path k s' := by
  cases h with
  | gathering ht hopen hstage hwritable hawaits hsome =>
    rw [← hgeneration] at hstage
    exact .gathering (htask.trans ht) hopen hstage hwritable hawaits hsome
  | ended ht hended hstage hshown =>
    rw [← hgeneration] at hstage
    rw [← hfile] at hshown
    exact .ended (htask.trans ht) hended hstage hshown

theorem FilePhase.of_other (h : FilePhase reply path k s) (hs : s.FilesSteady)
    (hactor : s.actor event ≠ k) (hevent : ∀ path, event ≠ .loadFile path) :
    FilePhase reply path k (s.respond setup event) := by
  obtain ⟨hacts, -⟩ := respond_acts setup hs.sent event
  have htask := task?_of_acts_of_ne hacts hactor.symm
  have hgeneration := fileGeneration_of_acts hacts hevent
  refine h.congr htask hgeneration ?_
  by_contra hchange
  obtain ⟨u, path', hends, hstage'⟩ := ends_of_file_ne hacts hs.healthy hchange
  obtain ⟨t, ht, hstage⟩ := h.latest
  rw [← hgeneration] at hstage
  exact hactor ((hs.respond setup event).filesOrdered.eq_of_generation hends.1 (htask.trans ht)
    hstage' hstage)

theorem filePhase_of_failed (ht : s.task? k = some t)
    (hstage : t.stage = .file s.fileGeneration path) (fetches : List Fetch) (e : Failure)
    (hloaded : (loadedFile reply path).toOption = none) :
    FilePhase reply path k ((s.clear { t with fetches }).fail k { t with fetches } e) := by
  refine .ended (task?_fail ht _ e) rfl ?_ ?_
  · rw [fileGeneration_fail]
    exact hstage
  · have hcleared : (s.clear { t with fetches }).file = none := by simp [clear, hstage]
    rw [hloaded, State.fail, replace, hcleared]
    rfl

theorem filePhase_of_start (hs : s.Sent) (setup : Setup) (reply : Replies) (path : Json) :
    FilePhase reply path s.tasks.length (s.respond setup (.loadFile path)) := by
  have hself := task?_add_self { s with fileGeneration := s.fileGeneration + 1 }
    (.file (s.fileGeneration + 1) path) (fileFetches path)
  have hpending : (fileFetches path).filter Fetch.isPending = fileFetches path := rfl
  rw [respond, step, settled_of_others hself fun j u hj hu =>
    hs j u (task?_add_of_ne _ hj _ _ ▸ hu)]
  cases hunsent : Task.unsent? { stage := .file (s.fileGeneration + 1) path,
                                 fetches := fileFetches path } with
  | none =>
    rw [dropUnsent_of_sent hunsent]
    rw [Task.unsent?, hpending, List.findSome?_eq_none_iff] at hunsent
    refine .gathering hself rfl rfl hunsent (fun f hf => Or.inl ?_) rfl
    exact (Begins.loadFile 0 path).isPending f hf
  | some e =>
    rw [dropUnsent, hunsent]
    rw [Task.unsent?, hpending] at hunsent
    obtain ⟨f, hf, hfault⟩ := List.exists_of_findSome?_eq_some hunsent
    have hfails : received reply f = .error e := by rw [received, hfault]
    exact filePhase_of_failed hself rfl _ e (toOption_loadedFile_of_error hf hfails)

theorem reply_eq_payload (hunderway : t.Underway) (hclosed : ∀ f ∈ t.fetches, f.isPending = false)
    (hawaits : ∀ f ∈ t.fetches, Awaits reply f) {c : Client.Call}
    (hc : c ∈ t.fetches.map Fetch.call) : reply c.endpoint = .ok (t.payload c.endpoint) := by
  obtain ⟨f, hf, rfl, hpayload⟩ := hunderway.answer hclosed hc
  obtain ⟨v, hv, hreply⟩ := reply?_of_awaits (hawaits f hf) (hclosed f hf)
  obtain rfl : v = t.payload f.call.endpoint := by simpa using hreply.symm.trans hpayload
  exact hv

theorem exists_fileFetch {g : Nat} {e : Endpoint} (h : e ∈ (Stage.file g path).endpoints) :
    ∃ f ∈ fileFetches path, f.endpoint = e := by
  simp only [Stage.endpoints, List.mem_cons, List.not_mem_nil, or_false] at h
  rcases h with rfl | rfl
  · exact ⟨⟨.file path, .pending⟩, by simp [fileFetches], rfl⟩
  · exact ⟨⟨.fileFunctions path, .pending⟩, by simp [fileFetches], rfl⟩

theorem filePhase_of_error (hs : s.Steady) (setup : Setup) (ht : s.task? k = some t)
    (hstage : t.stage = .file s.fileGeneration path)
    (hwritable : ∀ f ∈ fileFetches path, f.unwritable? = none) {e : Endpoint} {failure : Failure}
    (haccepts : s.accepts (.settle k e (.error failure)) = true)
    (hreply : reply e = .error failure) :
    FilePhase reply path k (s.respond setup (.settle k e (.error failure))) := by
  obtain ⟨u, hu, hopen, hany⟩ := accepts_settle_iff.mp haccepts
  obtain rfl := Option.some.inj (ht.symm.trans hu)
  obtain ⟨f, hf, hf'⟩ := List.any_eq_true.mp hany
  simp only [isOpen, Bool.and_eq_true, beq_iff_eq] at hf'
  have hplace := (hs.healthy k t ht hopen).awaited f hf hf'.2
  rw [hstage, hf'.1] at hplace
  obtain ⟨g, hg, rfl⟩ := exists_fileFetch hplace
  have hfails : received reply g = .error failure :=
    (received_of_writable (hwritable g hg)).trans hreply
  rw [respond_error ht hs.sent haccepts]
  exact filePhase_of_failed ht hstage _ failure (toOption_loadedFile_of_error hg hfails)

theorem advance_file (setup : Setup) (k : Nat) (hstage : t.stage = .file s.fileGeneration path)
    {file : LoadedFile}
    (hfile : fileOf path (t.payload .file) (t.payload .fileFunctions) = .ok file) :
    s.advance setup k t = { s with file := some ⟨s.fileGeneration, file⟩ }.replace k
      (t.finish .published) := by
  unfold advance
  simp only [hstage, ne_eq, not_true_eq_false, if_false]
  rw [hfile]

theorem filePhase_of_joined (hreadable : Readable reply path) (hsent : s.Sent) (setup : Setup)
    (hk : k < s.tasks.length) (hstage : t.stage = .file s.fileGeneration path)
    (hwritable : ∀ f ∈ fileFetches path, f.unwritable? = none) (hunderway : t.Underway)
    (hclosed : ∀ f ∈ t.fetches, f.isPending = false) (hawaits : ∀ f ∈ t.fetches, Awaits reply f) :
    FilePhase reply path k (s.advance setup k t).settled := by
  have hasks := hunderway.asks
  rw [hstage] at hasks
  have hcalls := hasks.of_file
  have hpayload (c : Client.Call) (hc : c ∈ [Client.Call.file path, .fileFunctions path]) :=
    reply_eq_payload hunderway hclosed hawaits (hcalls ▸ hc)
  have hfile : reply .file = .ok (t.payload .file) := hpayload (.file path) (by simp)
  have hfunctions : reply .fileFunctions = .ok (t.payload .fileFunctions) :=
    hpayload (.fileFunctions path) (by simp)
  obtain ⟨loaded, hjoins⟩ := hreadable _ _ hfile hfunctions
  have hloaded := fileOf_eq_ok_iff.mpr hjoins
  have hself (u : Task) : ({ s with file := some ⟨s.fileGeneration, loaded⟩ }.replace k
      u).task? k = some u :=
    List.getElem?_set_self hk
  rw [advance_file setup k hstage hloaded, settled_of_acted hsent (hself _)
    (Task.unsent?_finish _ _) fun j hj => task?_replace_of_ne _ _ _ hj]
  refine .ended (hself _) rfl hstage ?_
  rw [loadedFile_of_ok hwritable hfile hfunctions, hloaded]
  rfl

theorem filePhase_of_ok (hreadable : Readable reply path) (hs : s.Steady) (setup : Setup)
    (ht : s.task? k = some t) (hstage : t.stage = .file s.fileGeneration path)
    (hwritable : ∀ f ∈ fileFetches path, f.unwritable? = none)
    (hawaits : ∀ f ∈ t.fetches, Awaits reply f) {e : Endpoint} {v : Json}
    (haccepts : s.accepts (.settle k e (.ok v)) = true) (hreply : reply e = .ok v) :
    FilePhase reply path k (s.respond setup (.settle k e (.ok v))) := by
  obtain ⟨u, hu, hopen, hany⟩ := accepts_settle_iff.mp haccepts
  obtain rfl := Option.some.inj (ht.symm.trans hu)
  have hsettles : Settles (.settle k e (.ok v)) k t (.ok v)
      (t.fetches.map (answered e (.ok v))) := ⟨e, rfl, hany, rfl⟩
  have hawaits' : ∀ f ∈ t.fetches.map (answered e (.ok v)), Awaits reply f := by
    intro f hf
    obtain ⟨g, hg, rfl⟩ := List.mem_map.mp hf
    exact (hawaits g hg).answered hreply
  by_cases hmore : (t.fetches.map (answered e (.ok v))).any Fetch.isPending = true
  · rw [respond_ok_of_more ht hs.sent haccepts hmore]
    exact .gathering (task?_replace_self ht) hopen hstage hwritable hawaits' hmore
  · have hunderway := (hs.healthy k t ht hopen).settles hsettles
    rw [respond_ok_of_last ht haccepts hmore]
    exact filePhase_of_joined hreadable hs.sent setup (lt_length_of_task? ht) hstage hwritable
      hunderway (fun _ => isPending_of_none hmore) hawaits'

theorem FilePhase.settle_self (h : FilePhase reply path k s) (hreadable : Readable reply path)
    (hs : s.Steady) (setup : Setup) (e : Endpoint) :
    FilePhase reply path k (s.respond setup (.settle k e (reply e))) := by
  by_cases haccepts : s.accepts (.settle k e (reply e)) = true
  · cases h with
    | gathering ht hopen hstage hwritable hawaits =>
      cases hreply : reply e with
      | error failure =>
        rw [hreply] at haccepts
        exact filePhase_of_error hs setup ht hstage hwritable haccepts hreply
      | ok v =>
        rw [hreply] at haccepts
        exact filePhase_of_ok hreadable hs setup ht hstage hwritable hawaits haccepts hreply
    | ended ht hended =>
      obtain ⟨u, hu, hopen, -⟩ := accepts_settle_iff.mp haccepts
      rw [Option.some.inj (hu.symm.trans ht), hended] at hopen
      contradiction
  · rw [respond, step_of_not_accepts haccepts, settled_of_sent hs.sent]
    exact h

/-- What may happen after load `k` of a file: no other file is loaded, the load is not cancelled,
and its requests are answered like this. -/
def Follows (reply : Replies) (k : Nat) (event : Event) : Prop :=
  (∀ path, event ≠ .loadFile path) ∧ event ≠ .cancel k ∧
    ∀ e r, event = .settle k e r → r = reply e

theorem FilePhase.run (h : FilePhase reply path k s) (hreadable : Readable reply path)
    (hs : s.FilesSteady) (setup : Setup) {events : List Event}
    (hfollow : ∀ event ∈ events, Follows reply k event) :
    FilePhase reply path k (s.run setup events) := by
  -- An event that is not about the load leaves its phase alone, as it starts no other file.
  induction events generalizing s with
  | nil => exact h
  | cons event events ih =>
    obtain ⟨hloads, hcancels, hanswers⟩ := hfollow event List.mem_cons_self
    refine ih ?_ (hs.respond setup event) fun x hx => hfollow x (List.mem_cons_of_mem _ hx)
    by_cases hactor : s.actor event = k
    · cases event with
      | explore | exploreId | loadFile =>
        obtain ⟨t, ht, -⟩ := h.latest
        exact absurd hactor (Nat.ne_of_gt (lt_length_of_task? ht))
      | settle i e r =>
        obtain rfl : i = k := hactor
        obtain rfl := hanswers e r rfl
        exact h.settle_self hreadable hs.toSteady setup e
      | cancel i => exact absurd (congrArg Event.cancel hactor) hcancels
    · exact h.of_other hs hactor hloads

theorem FilePhase.file_of_quiet (h : FilePhase reply path k s) (hquiet : s.Quiet) :
    s.file.map FileDisplay.file = (loadedFile reply path).toOption := by
  cases h with
  | gathering ht hopen hstage hwritable hawaits hsome =>
    obtain ⟨f, hf, hpending⟩ := List.any_eq_true.mp hsome
    rw [hquiet k _ ht f hf] at hpending
    contradiction
  | ended _ _ _ hfile => exact hfile

end FilePhase

end State

open State

/-- A file is published as a whole, from the two answers to one single load, and only the load of a
file that was started last changes it, when it ends. Once no request is open any more, and unless
that load was cancelled, the file is what its two answers come to if they can be read: none if one
of them is a failure. Nothing else in the run matters for that. -/
theorem last_file_wins (setup : Setup) (events : List Event) (event : Event) :
    let s := ({} : State).run setup events
    let s' := s.respond setup event
    (∀ d, s.file = some d → ∃ i t path file functions, s.task? i = some t ∧
      t.outcome = .published ∧ t.stage = .file d.generation path ∧
      (∀ j u path', s.task? j = some u → u.stage = .file d.generation path' → j = i) ∧
      Brought setup events i (.file path) (.ok file) ∧
      Brought setup events i (.fileFunctions path) (.ok functions) ∧
      d.file.Joins path file functions) ∧
    (s'.file ≠ s.file → ∃ i t, Ends s s' i t ∧ t.stage.loadsGraph = false ∧ s'.LastFile i) ∧
    ∀ before path after reply, events = before ++ .loadFile path :: after →
      (∀ e ∈ after, Follows reply (({} : State).run setup before).tasks.length e) →
      Readable reply path → s.Quiet → FileLoadsTo reply path (s.file.map FileDisplay.file) := by
  intro s s'
  have hs : s.FilesSteady := filesSteady_run setup events
  refine ⟨fun d hd => ?_, fun hchange => ?_, ?_⟩
  · obtain ⟨i, t, ht, hpublished, path, file, functions, hstage, hfile, hfunctions, hjoined⟩ :=
      hs.fileAttributed d hd
    refine ⟨i, t, path, file, functions, ht, hpublished, hstage, fun j u path' hu hstage' => ?_,
      hfile.brought ht, hfunctions.brought ht, fileOf_eq_ok_iff.mp hjoined⟩
    exact hs.filesOrdered.eq_of_generation hu ht hstage' hstage
  · obtain ⟨hacts, -⟩ := respond_acts setup hs.sent event
    obtain ⟨t, path, hends, hstage⟩ := ends_of_file_ne hacts hs.healthy hchange
    refine ⟨_, t, hends, by rw [hstage]; rfl, ?_⟩
    exact (hs.respond setup event).filesOrdered.lastFile hends.1 hstage
  · rintro before path after reply rfl hfollow hreadable hquiet
    have hbefore := filesSteady_run setup before
    have hstart := filePhase_of_start hbefore.sent setup reply path
    have hphase := hstart.run hreadable (hbefore.respond setup _) setup hfollow
    have hrun : s = (((({} : State).run setup before).respond setup (.loadFile path)).run setup
        after) := run_append setup {} before (.loadFile path :: after)
    rw [← hrun] at hphase
    rw [hphase.file_of_quiet hquiet]
    exact fileLoadsTo_loadedFile hreadable

def holding (content : String) : Replies
  | .file => .ok (.object [("fileResolved", .text "src/b.go"), ("package", .text "main"),
      ("content", .text content)])
  | _ => .ok (.object [("functions", .list [.object [("name", .text "Bind")]])])

def crossingFiles : List Event :=
  [.loadFile (.text "a"), .settle 0 .file (holding "x" .file), .loadFile (.text "b"),
    .settle 1 .fileFunctions (holding "y" .fileFunctions), .settle 1 .file (holding "y" .file),
    .settle 0 .fileFunctions (holding "x" .fileFunctions)]

theorem last_file_wins_of_crossing :
    (({} : State).run {} crossingFiles).file.map FileDisplay.file =
      some { requested := .text "b", resolved := .text "src/b.go", package := .text "main",
             content := .text "y", functions := [.object [("name", .text "Bind")]] } := by
  have hfollow : ∀ e ∈ crossingFiles.drop 3,
      Follows (holding "y") (({} : State).run {} (crossingFiles.take 2)).tasks.length e := by
    have hlength : (({} : State).run {} (crossingFiles.take 2)).tasks.length = 1 := by
      decide +kernel
    rw [hlength]
    intro e he
    simp only [crossingFiles, List.drop_succ_cons, List.drop_zero, List.mem_cons, List.not_mem_nil,
      or_false] at he
    rcases he with rfl | rfl | rfl
    · exact ⟨by simp, by simp, by rintro e r ⟨⟩; rfl⟩
    · exact ⟨by simp, by simp, by rintro e r ⟨⟩; rfl⟩
    · exact ⟨by simp, by simp, by rintro e r ⟨⟩⟩
  have hreadable : Readable (holding "y") (.text "b") := by
    rintro file functions ⟨⟩ ⟨⟩
    exact ⟨_, fileOf_eq_ok_iff.mp rfl⟩
  have hquiet : (({} : State).run {} crossingFiles).Quiet := by
    decide +kernel
  have hlast := (last_file_wins {} crossingFiles (.cancel 0)).2.2 (crossingFiles.take 2)
    (.text "b") (crossingFiles.drop 3) (holding "y") rfl hfollow hreadable hquiet
  obtain ⟨loaded, hjoins, hshown⟩ := hlast.joined _ _ rfl rfl
  rw [hshown, ← Except.ok.inj (fileOf_eq_ok_iff.mpr hjoins)]
  rfl

end CallAtlas.Explorer
