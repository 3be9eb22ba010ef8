import Mathlib
import TextTemplate.Proofs.Render.Transparency

/-!
# Sessions with loaders

A session is a sequence of requests to loaders: to load or to render templates by name, to compile
text, to render a template that an earlier request gave, and to forget what is kept.  What a loader
keeps depends on all requests so far, and on what their renders loaded on the way; but the answers do
not depend on it.  A loader with a cache and one without give the same answer to every request
(`Session.cache_transparent`), as long as no template is bound to a name.
-/

namespace TextTemplate

open Value (Paired)

/-- A loader that nothing has been asked of. -/
inductive Loader.Unused : Loader → Prop
  | new (id : LoaderId) (sources : List Source) (grammar : Grammar) (caching : Bool) :
      Unused (.new id sources grammar caching)

theorem Loader.Unused.alike {l : Loader} (unused : l.Unused) : l.Alike l := by
  cases unused with
  | new id sources grammar caching => exact new_alike id sources grammar caching caching

/-- A request; all but one are made to the loader of a number. -/
inductive Request where
  | load (loader : LoaderId) (name : String)
  | loadAny (loader : LoaderId) (names : List String)
  | render (loader : LoaderId) (name : String) (params : Value)
  | renderAny (loader : LoaderId) (names : List String) (params : Value)
  | compile (loader : LoaderId) (source : String)
  /-- Renders one of the templates that were given so far. -/
  | renderGiven (index : Nat) (params : Value)
  | clear (loader : LoaderId)

/-- What a request is answered with. -/
inductive Answer where
  /-- The name of the template that is given. -/
  | template (name : String)
  /-- The text that was rendered, or why there is none. -/
  | rendered (result : Except Stop String)
  | fault (fault : Fault)
  | done
  /-- There is no loader of this number. -/
  | noLoader
  /-- No template was given under this index. -/
  | notGiven

/-- What renders can change, and the templates that were given so far. -/
structure Session (τ : Type) where
  memory : Memory (World τ)
  given : List Template

namespace Session

variable {τ : Type}

/-- A session with some loaders, before the first request. -/
def start (live : List Loader) (state : τ) : Session τ := ⟨⟨0, ⟨⟨live⟩, state⟩⟩, []⟩

/-- The loaders of a session. -/
def loaders (s : Session τ) : Loaders := s.memory.store.loaders

/-- The session with other loaders. -/
def withLoaders (s : Session τ) (ls : Loaders) : Session τ :=
  { s with memory := { s.memory with store := { s.memory.store with loaders := ls } } }

/-- Fetches a template from a loader. -/
def fetch (s : Session τ) (id : LoaderId) (step : Loader.Loading Template) :
    Except Answer Template × Session τ :=
  match s.loaders.get? id with
  | none => (.error .noLoader, s)
  | some l =>
    match s.loaders.run l step with
    | (.ok t, ls) => (.ok t, s.withLoaders ls)
    | (.error fault, ls) => (.error (.fault fault), s.withLoaders ls)

theorem fetch_of_step {s : Session τ} {id : LoaderId} {step : Loader.Loading Template} {l l' : Loader}
    {t : Template} (found : s.loaders.get? id = some l) (stepped : step l = .ok t l') :
    s.fetch id step = (.ok t, s.withLoaders (s.loaders.set l')) := by
  unfold fetch
  rw [found]
  dsimp only
  rw [Loaders.run, EStateM.run, stepped]

/-- Gives the template that a loader fetches. -/
def take (s : Session τ) (id : LoaderId) (step : Loader.Loading Template) : Answer × Session τ :=
  match s.fetch id step with
  | (.ok t, s) => (.template t.name, { s with given := s.given ++ [t] })
  | (.error answer, s) => (answer, s)

section

variable (call : String → Nat → List Value → τ → Except Fault Value × τ)

/-- Renders a template. -/
def render (s : Session τ) (t : Template) (params : Value) : Answer × Session τ :=
  let (result, memory) := t.render (Loaders.host call) params s.memory
  (.rendered result, { s with memory := memory })

/-- Renders the template that a loader fetches. -/
def renderTaken (s : Session τ) (id : LoaderId) (step : Loader.Loading Template) (params : Value) :
    Answer × Session τ :=
  match s.fetch id step with
  | (.ok t, s) => render call s t params
  | (.error answer, s) => (answer, s)

/-- Answers a request. -/
def answer (s : Session τ) : Request → Answer × Session τ
  | .load id name => s.take id (Loader.load name)
  | .loadAny id names => s.take id (Loader.loadAny names)
  | .render id name params => s.renderTaken call id (Loader.load name) params
  | .renderAny id names params => s.renderTaken call id (Loader.loadAny names) params
  | .compile id source => s.take id (Loader.compile source)
  | .renderGiven index params =>
    match s.given[index]? with
    | some t => s.render call t params
    | none => (.notGiven, s)
  | .clear id =>
    match s.loaders.get? id with
    | some l => (.done, s.withLoaders (s.loaders.set l.clear))
    | none => (.noLoader, s)

/-- The answers to requests, one after the other. -/
def answers (s : Session τ) : List Request → List Answer
  | [] => []
  | r :: rest => (s.answer call r).1 :: (s.answer call r).2.answers rest

end

/-! ## Requests that bind no template -/

/-- A request renders a template with parameters, with the loaders as fetching it left them. -/
inductive Renders (s : Session τ) : Request → Template → Value → Session τ → Prop
  | render {id : LoaderId} {name : String} {params : Value} {t : Template} {inside : Session τ} :
      s.fetch id (Loader.load name) = (.ok t, inside) →
      Renders s (.render id name params) t params inside
  | renderAny {id : LoaderId} {names : List String} {params : Value} {t : Template}
      {inside : Session τ} :
      s.fetch id (Loader.loadAny names) = (.ok t, inside) →
      Renders s (.renderAny id names params) t params inside
  | renderGiven {index : Nat} {params : Value} {t : Template} :
      s.given[index]? = some t → Renders s (.renderGiven index params) t params s

section

variable (call : String → Nat → List Value → τ → Except Fault Value × τ)

/-- What a request renders has no template in its parameters, and binds none. -/
def Unbinding (s : Session τ) (r : Request) : Prop :=
  ∀ t params inside, s.Renders r t params inside →
    params.Plain ∧ ∀ entries, parameters params = .ok entries →
      Render.BindsPlain (Loaders.host call) (t.start entries inside.memory)

/-- So do all requests of a session. -/
def AllUnbinding (s : Session τ) : List Request → Prop
  | [] => True
  | r :: rest => s.Unbinding call r ∧ (s.answer call r).2.AllUnbinding rest

end

/-! ## Sessions side by side -/

/-- A step by which alike loaders give twins. -/
def GivesTwins (step : Loader.Loading Template) : Prop :=
  ∀ l l' : Loader, l.Alike l' → EndsIn Loader.Alike TemplateOf.Twin (step l) (step l')

theorem givesTwins_loadAny (names : List String) : GivesTwins (Loader.loadAny names) :=
  fun _ _ alike => Loader.loadAny_alike alike names

theorem givesTwins_compile (source : String) : GivesTwins (Loader.compile source) :=
  fun _ _ alike => Loader.own_compile_alike alike source

/-- Sessions with alike loaders, in which twins were given. -/
structure Alike (s s' : Session τ) : Prop where
  memory : s.memory.Alike s'.memory
  given : List.Forall₂ TemplateOf.Twin s.given s'.given

section

variable {call : String → Nat → List Value → τ → Except Fault Value × τ} {s s' : Session τ}

/-- Under an index twins were given, or nothing was given in either session. -/
theorem Alike.given_alike (alike : s.Alike s') (index : Nat) :
    Option.Rel TemplateOf.Twin s.given[index]? s'.given[index]? := by
  have given := alike.given
  generalize s.given = ts, s'.given = ts' at given ⊢
  induction given generalizing index with
  | nil => exact .none
  | cons twin _ ih =>
    cases index with
    | zero => exact .some twin
    | succ index => exact ih index

theorem Alike.loaders (alike : s.Alike s') : s.loaders.Alike s'.loaders :=
  alike.memory.store.loaders

theorem Alike.withLoaders (alike : s.Alike s') {ls ls' : Loaders} (loaders : ls.Alike ls') :
    (s.withLoaders ls).Alike (s'.withLoaders ls') :=
  ⟨⟨alike.memory.found, loaders, alike.memory.store.state⟩, alike.given⟩

/-- A step that ends alike in alike loaders fetches twins. -/
theorem Alike.fetch (alike : s.Alike s') (id : LoaderId) {step : Loader.Loading Template}
    (steps : GivesTwins step) :
    Ends TemplateOf.Twin (s.fetch id step).1 (s'.fetch id step).1 ∧
      (s.fetch id step).2.Alike (s'.fetch id step).2 := by
  unfold Session.fetch
  have found := alike.loaders.get? id
  generalize s.loaders.get? id = x, s'.loaders.get? id = y at found ⊢
  cases found with
  | none => exact ⟨.error _, alike⟩
  | @some l l' both =>
    obtain ⟨fetched, left⟩ := alike.loaders.run (steps l l' both)
    dsimp only
    generalize s.loaders.run l step = x, s'.loaders.run l' step = y at fetched left ⊢
    obtain ⟨x, ls⟩ := x
    obtain ⟨y, ls'⟩ := y
    cases fetched with
    | ok twin => exact ⟨.ok twin, alike.withLoaders left⟩
    | error fault => exact ⟨.error _, alike.withLoaders left⟩

theorem Alike.take (alike : s.Alike s') (id : LoaderId) {step : Loader.Loading Template}
    (steps : GivesTwins step) :
    (s.take id step).1 = (s'.take id step).1 ∧ (s.take id step).2.Alike (s'.take id step).2 := by
  obtain ⟨fetched, left⟩ := alike.fetch id steps
  unfold Session.take
  generalize s.fetch id step = x, s'.fetch id step = y at fetched left ⊢
  obtain ⟨x, between⟩ := x
  obtain ⟨y, between'⟩ := y
  cases fetched with
  | ok twin =>
    refine ⟨congrArg Answer.template twin.name_eq, left.memory, ?_⟩
    exact List.rel_append left.given (.cons twin .nil)
  | error answer => exact ⟨rfl, left⟩

theorem Alike.render (opaq : Opaque call) (alike : s.Alike s') {t t' : Template} (twin : t.Twin t')
    {params : Value} (plain : params.Plain)
    (binds : ∀ entries, parameters params = .ok entries →
      Render.BindsPlain (Loaders.host call) (t.start entries s.memory)) :
    (s.render call t params).1 = (s'.render call t' params).1 ∧
      (s.render call t params).2.Alike (s'.render call t' params).2 := by
  obtain ⟨same, memory⟩ := Render.render_alike opaq twin plain alike.memory binds
  exact ⟨congrArg Answer.rendered same, memory, alike.given⟩

theorem Alike.renderTaken (opaq : Opaque call) (alike : s.Alike s') (id : LoaderId)
    {step : Loader.Loading Template}
    (steps : GivesTwins step)
    {params : Value}
    (unbinding : ∀ t inside, s.fetch id step = (.ok t, inside) → params.Plain ∧
      ∀ entries, parameters params = .ok entries →
        Render.BindsPlain (Loaders.host call) (t.start entries inside.memory)) :
    (s.renderTaken call id step params).1 = (s'.renderTaken call id step params).1 ∧
      (s.renderTaken call id step params).2.Alike (s'.renderTaken call id step params).2 := by
  obtain ⟨fetched, left⟩ := alike.fetch id steps
  unfold Session.renderTaken
  generalize s.fetch id step = x, s'.fetch id step = y at fetched left unbinding ⊢
  obtain ⟨x, between⟩ := x
  obtain ⟨y, between'⟩ := y
  cases fetched with
  | ok twin =>
    obtain ⟨plain, binds⟩ := unbinding _ _ rfl
    exact left.render opaq twin plain binds
  | error answer => exact ⟨rfl, left⟩

/-- **A request is answered alike**, and leaves alike sessions behind. -/
theorem Alike.answer (opaq : Opaque call) (alike : s.Alike s') (r : Request)
    (unbinding : s.Unbinding call r) :
    (s.answer call r).1 = (s'.answer call r).1 ∧
      (s.answer call r).2.Alike (s'.answer call r).2 := by
  cases r with
  | load id name => exact alike.take id (givesTwins_loadAny [name])
  | loadAny id names => exact alike.take id (givesTwins_loadAny names)
  | render id name params =>
    exact alike.renderTaken opaq id (givesTwins_loadAny [name])
      fun t inside fetched => unbinding t params inside (.render fetched)
  | renderAny id names params =>
    exact alike.renderTaken opaq id (givesTwins_loadAny names)
      fun t inside fetched => unbinding t params inside (.renderAny fetched)
  | compile id source => exact alike.take id (givesTwins_compile source)
  | renderGiven index params =>
    have twins := alike.given_alike index
    unfold Session.answer
    dsimp only
    generalize given : s.given[index]? = x, s'.given[index]? = y at twins ⊢
    cases twins with
    | none => exact ⟨rfl, alike⟩
    | some twin =>
      obtain ⟨plain, binds⟩ := unbinding _ params s (.renderGiven given)
      exact alike.render opaq twin plain binds
  | clear id =>
    have found := alike.loaders.get? id
    unfold Session.answer
    dsimp only
    generalize s.loaders.get? id = x, s'.loaders.get? id = y at found ⊢
    cases found with
    | none => exact ⟨rfl, alike⟩
    | some both => exact ⟨rfl, alike.withLoaders (alike.loaders.set both.clear)⟩

/-- Requests are answered alike in alike sessions. -/
theorem Alike.answers_eq (opaq : Opaque call) (alike : s.Alike s') (requests : List Request)
    (unbinding : s.AllUnbinding call requests) :
    s.answers call requests = s'.answers call requests := by
  induction requests generalizing s s' with
  | nil => rfl
  | cons r rest ih =>
    obtain ⟨same, left⟩ := alike.answer opaq r unbinding.1
    rw [answers, answers, same, ih left unbinding.2]

/-- **The cache is transparent.**  Whatever the sources and the grammar are, a loader with a cache
and one without give the same answers to all requests: the same template names, texts and faults;
also if there are other loaders that templates can be loaded from.  The functions of the program
must not tell templates by their identity, and no template may stand in the parameters or be bound
to a name, as seen with one of the two loaders. -/
theorem cache_transparent (opaq : Opaque call) (id : LoaderId) (sources : List Loader.Source)
    (grammar : Grammar) (others : List Loader) (unused : ∀ l ∈ others, l.Unused) (state : τ)
    (watched : Bool) (requests : List Request)
    (unbinding :
      (start (.new id sources grammar watched :: others) state).AllUnbinding call requests) :
    (start (.new id sources grammar true :: others) state).answers call requests =
      (start (.new id sources grammar false :: others) state).answers call requests := by
  have beside : List.Forall₂ Loader.Alike others others :=
    List.forall₂_same.2 fun l mem => (unused l mem).alike
  have same (caching : Bool) :
      (start (.new id sources grammar watched :: others) state).answers call requests =
        (start (.new id sources grammar caching :: others) state).answers call requests := by
    have live : Loaders.Alike ⟨.new id sources grammar watched :: others⟩
        ⟨.new id sources grammar caching :: others⟩ :=
      .cons (Loader.new_alike id sources grammar watched caching) beside
    have alike : (start (.new id sources grammar watched :: others) state).Alike
        (start (.new id sources grammar caching :: others) state) :=
      ⟨⟨rfl, live, rfl⟩, .nil⟩
    exact alike.answers_eq opaq requests unbinding
  rw [← same true, same false]

end

/-! ## A session in which a render loads a template -/

namespace Cached

/-- Includes a note. -/
def page : String := "\x7b% include 'note' %\x7d"

/-- Sets a name, and writes it. -/
def note : String := "\x7b% set 1 as x %\x7d\x7b\x7b x \x7d\x7d"

def source : Loader.Source := .memory (.ofList [("note", note), ("page", page)])

def grammar : Grammar := .standard (.escaper 0)

def requests : List Request :=
  [.render ⟨0⟩ "page" .null, .load ⟨0⟩ "note", .clear ⟨0⟩, .load ⟨0⟩ "other"]

/-- A function of the program, which gives its first argument back, and counts how often it is
called. -/
def echo (_ : String) (_ : Nat) (args : List Value) (calls : Nat) : Except Fault Value × Nat :=
  (.ok (args.headD .null), calls + 1)

theorem opaque_echo : Opaque echo := by
  intro R name serial vs ws calls _ args
  refine ⟨?_, rfl⟩
  cases args with
  | nil => exact .ok Paired.null
  | cons first _ => exact .ok first

def loader : Loader := .new ⟨0⟩ [source] grammar true

def pageBody : Fragment := ⟨"page", [(1, .include ⟨"'note'", .literal (.text "note")⟩)]⟩

def noteBody : Fragment := ⟨"note", [
  (1, .assign (.name "x") ⟨"1", .literal (.int 1)⟩),
  (1, .output ⟨"x", .name "x"⟩)]⟩

def template (serial : Nat) (body : Fragment) : Template :=
  ⟨⟨some ⟨0⟩, serial⟩, body, .empty,
    grammar.entries body.name (Loader.withLoader ⟨0⟩ (Dictionary.empty.insert superKey .null))⟩

/-- The loader behind the page. -/
def between : Loader := { loader with
  compiled := 1, asked := [(0, "page")], cache := some ⟨[("page", template 0 pageBody)]⟩ }

/-- The loader behind the note. -/
def behind : Loader := { loader with
  compiled := 2, asked := [(0, "note"), (0, "page")],
  cache := some ⟨[("note", template 1 noteBody), ("page", template 0 pageBody)]⟩ }

set_option maxRecDepth 100000 in
theorem load_page : Loader.load "page" loader = .ok (template 0 pageBody) between := by
  have read : source.read "page" = .ok (some page) := rfl
  refine Loader.load_of_compile rfl rfl read (Grammar.compile_of_parse _ _ _ ?_)
  show Tag.parseTemplate Tag.standard page "page" = .ok pageBody
  cbv

set_option maxRecDepth 100000 in
theorem load_note : Loader.load "note" between = .ok (template 1 noteBody) behind := by
  have read : source.read "note" = .ok (some note) := rfl
  refine Loader.load_of_compile rfl rfl read (Grammar.compile_of_parse _ _ _ ?_)
  show Tag.parseTemplate Tag.standard note "note" = .ok noteBody
  cbv

theorem fetch_page : (start [loader] 0).fetch ⟨0⟩ (Loader.load "page") =
    (.ok (template 0 pageBody), start [between] 0) :=
  fetch_of_step rfl load_page

/-- What is kept with a loader, before any function is called. -/
def keeping (l : Loader) : Memory (World Nat) := ⟨0, ⟨⟨[l]⟩, 0⟩⟩

theorem resolve_note : Render.resolve (Loaders.host echo)
    ((template 0 pageBody).context .empty).place (.text "note") ⟨"", keeping between⟩ =
      .ok (template 1 noteBody) ⟨"", keeping behind⟩ := by
  have found : (Loaders.host echo).load ⟨0⟩ "note" (keeping between).store =
      (.ok (template 1 noteBody), (keeping behind).store) := by
    show World.onLoaders (fun _ => Loaders.run ⟨[between]⟩ between (Loader.load "note")) _ = _
    unfold Loaders.run
    rw [EStateM.run, load_note]
    rfl
  show Render.load (Loaders.host echo) ⟨0⟩ "note" ⟨"", keeping between⟩ = _
  rw [Render.load, Render.evaluate_apply, Evaluation.onStore, found]
  rfl

/-- The render binds only a number. -/
theorem bindsPlain :
    Render.BindsPlain (Loaders.host echo) ((template 0 pageBody).start .empty (keeping between)) := by
  have noteOnly : ∀ fr : Frame (World Nat), fr.fragment = noteBody →
      Render.BindsPlain (Loaders.host echo) fr := by
    intro fr body stack fr' moment line n ctx p begins entries binds
    obtain ⟨rfl, rfl⟩ | ⟨e, first, inner, ⟨line', p', begins', opens, -⟩, -, -⟩ :=
      moment.start_or_under
    · have mem := begins.mem
      rw [body] at mem
      obtain here | here := List.mem_pair.1 mem <;> cases here
      · cases binds with
        | assign evaluated gives =>
          cases evaluated
          cases gives
          intro e mem
          cases List.mem_singleton.1 mem
          rfl
      · cases binds
    · have mem := begins'.mem
      rw [body] at mem
      generalize e.node = n' at opens mem
      obtain here | here := List.mem_pair.1 mem <;> cases here <;> cases opens
  intro stack fr moment line n ctx p begins entries binds
  obtain ⟨rfl, rfl⟩ | ⟨e, first, inner, ⟨line', p', begins', opens, -⟩, under, -⟩ :=
    moment.start_or_under
  · cases begins with
    | head => cases binds
    | tail _ rest => cases rest
  · obtain ⟨n', ctx', template', inside⟩ := e
    cases begins' with
    | head =>
      cases opens with
      | «include» enters =>
        cases enters with
        | intro evaluated resolved entered =>
          cases evaluated
          cases resolve_note.symm.trans resolved
          exact noteOnly _ rfl _ _ under line n ctx p begins entries binds
    | tail _ rest => cases rest

theorem transparent_requests : Opaque echo ∧ (∀ l ∈ ([] : List Loader), l.Unused) ∧
    (start [.new ⟨0⟩ [source] grammar true] 0).AllUnbinding echo requests ∧
    (start [.new ⟨0⟩ [source] grammar true] 0).answers echo requests =
      (start [.new ⟨0⟩ [source] grammar false] 0).answers echo requests := by
  have alone : ∀ l ∈ ([] : List Loader), l.Unused := fun _ mem => nomatch mem
  have unbinding : (start [.new ⟨0⟩ [source] grammar true] 0).AllUnbinding echo requests := by
    refine ⟨?_, (fun _ _ _ renders => nomatch renders), (fun _ _ _ renders => nomatch renders),
      (fun _ _ _ renders => nomatch renders), trivial⟩
    intro t params inside renders
    cases renders with
    | render fetched =>
      cases fetch_page.symm.trans fetched
      refine ⟨rfl, fun entries same => ?_⟩
      cases same
      exact bindsPlain
  exact ⟨opaque_echo, alone, unbinding,
    cache_transparent opaque_echo ⟨0⟩ [source] grammar [] alone 0 true requests unbinding⟩

end Cached

end Session

end TextTemplate
