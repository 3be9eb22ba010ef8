import TextTemplate.Proofs.Loader.Session
import TextTemplate.Proofs.Loader.Visits
import TextTemplate.Proofs.Render.Loads

/-!
# Sessions in which the sources change

Between the requests of a session the sources of its loaders may change.  A loader with a cache is
watched: of each request it is noted which visits it makes to this loader, those that its render
makes on the way included, and clearing the loader starts a new list.  Whatever happens, every visit
goes by those before it, and what is kept in the end can be told from all of them
(`Session.cache_history`).
-/

namespace TextTemplate

/-! ## Loads by number -/

namespace Loaders

theorem get?_set_self {ls : Loaders} {l l' : Loader} (found : ls.get? l.id = some l') :
    (ls.set l).get? l.id = some l := by
  obtain ⟨live⟩ := ls
  unfold get? at found ⊢
  unfold set
  dsimp only at found ⊢
  induction live with
  | nil => cases found
  | cons first rest ih =>
    rw [List.map_cons, List.find?_cons]
    by_cases same : first.id = l.id
    · simp [same]
    · rw [List.find?_cons_of_neg (by simpa using same)] at found
      simp [same, ih found]

theorem get?_set_of_ne (ls : Loaders) {l : Loader} {id : LoaderId} (ne : l.id ≠ id) :
    (ls.set l).get? id = ls.get? id := by
  obtain ⟨live⟩ := ls
  unfold get? set
  dsimp only
  induction live with
  | nil => rfl
  | cons first rest ih =>
    rw [List.map_cons, List.find?_cons, List.find?_cons, ih]
    by_cases same : first.id = l.id
    · simp [same, ne]
    · simp [same]

theorem id_of_get? {ls : Loaders} {id : LoaderId} {l : Loader} (found : ls.get? id = some l) :
    l.id = id := by
  simpa using List.find?_some found

/-- Among some loaders the one of a number has some sources, and remembers some visits. -/
def Watches (ls : Loaders) (id : LoaderId) (sources : List Loader.Source) (since : List Visit) :
    Prop :=
  ∃ l, ls.get? id = some l ∧ l.sources = sources ∧ l.Remembers since

/-- The visits to a watched loader that a step of one of the loaders makes. -/
def made (ls : Loaders) (id other : LoaderId) (visits : Loader → List Visit) : List Visit :=
  match ls.get? other with
  | some l => if other = id then visits l else []
  | none => []

/-- The visits to a watched loader that some demands make, one after the other. -/
def visits (id : LoaderId) : List Demand → Loaders → List Visit
  | [], _ => []
  | .load other name :: rest, ls =>
    ls.made id other (Loader.tries [name]) ++ visits id rest (load other name ls).2
  | .call .. :: rest, ls => visits id rest ls

section

variable {ls : Loaders} {id : LoaderId} {sources : List Loader.Source} {since : List Visit}

/-- Another loader takes the place of the one of its number; the other ones are as they were. -/
theorem Watches.set (watches : ls.Watches id sources since) {l : Loader} (l' : Loader)
    (found : ls.get? l'.id = some l) {sources' : List Loader.Source} {since' : List Visit}
    (own : l'.id = id → l.sources = sources → l.Remembers since →
      l'.sources = sources' ∧ l'.Remembers since')
    (others : l'.id ≠ id → sources' = sources ∧ since' = since) :
    (ls.set l').Watches id sources' since' := by
  obtain ⟨k, found', same, remembers⟩ := watches
  by_cases mine : l'.id = id
  · have set := get?_set_self found
    rw [mine] at found set
    cases found.symm.trans found'
    obtain ⟨same', remembers'⟩ := own mine same remembers
    exact ⟨l', set, same', remembers'⟩
  · obtain ⟨rfl, rfl⟩ := others mine
    refine ⟨k, ?_, same, remembers⟩
    rw [get?_set_of_ne ls mine]
    exact found'

/-- A step of any of the loaders leaves the watched one with the visits that it makes. -/
theorem Watches.run (watches : ls.Watches id sources since) {other : LoaderId} {l : Loader}
    (found : ls.get? other = some l) {α : Type} {step : Loader.Loading α}
    {visits : Loader → List Visit} (makes : Loader.Makes step visits) :
    (ls.run l step).2.Watches id sources (since ++ ls.made id other visits) := by
  have left : (ls.run l step).2 = ls.set (Loader.behind (step l)) := by
    unfold Loaders.run EStateM.run
    cases step l <;> rfl
  have kin := makes.kin l
  have number : (Loader.behind (step l)).id = other := by rw [← kin.id, id_of_get? found]
  unfold made
  rw [left, found]
  dsimp only
  subst number
  refine watches.set _ found (fun own same remembers => ?_) fun others => ?_
  · rw [if_pos own]
    exact ⟨kin.sources.symm.trans same, makes.remembers l since remembers⟩
  · rw [if_neg others, List.append_nil]
    exact ⟨rfl, rfl⟩

theorem Watches.load (watches : ls.Watches id sources since) (other : LoaderId) (name : String) :
    (Loaders.load other name ls).2.Watches id sources
      (since ++ ls.made id other (Loader.tries [name])) := by
  unfold Loaders.load
  cases found : ls.get? other with
  | none =>
    rw [made, found, List.append_nil]
    exact watches
  | some l => exact watches.run found (Loader.makes_loadAny [name])

/-- **Demands leave the watched loader with their visits**, one after the other. -/
theorem Watches.after {τ : Type} {w : World τ} (watches : w.loaders.Watches id sources since)
    (call : String → Nat → List Value → τ → Except Fault Value × τ) (demands : List Demand) :
    ((Loaders.host call).after w demands).loaders.Watches id sources
      (since ++ w.loaders.visits id demands) := by
  induction demands generalizing w since with
  | nil =>
    rw [visits, List.append_nil]
    exact watches
  | cons first rest ih =>
    cases first with
    | load other name =>
      have left : ((Loaders.host call).meet w (.load other name)).loaders.Watches id sources _ :=
        watches.load other name
      have later := ih left
      rw [List.append_assoc] at later
      exact later
    | call name serial args =>
      have left : ((Loaders.host call).meet w (.call name serial args)).loaders.Watches id sources
          since := watches
      exact ih left

end

end Loaders

/-! ## Watched sessions -/

namespace Session

/-- What happens in a session. -/
inductive Event where
  | request (request : Request)
  /-- A loader has other sources from now on. -/
  | change (loader : LoaderId) (sources : List Loader.Source)

section

variable {τ : Type} (call : String → Nat → List Value → τ → Except Fault Value × τ)

/-- The session behind an event. -/
def follow (s : Session τ) : Event → Session τ
  | .request r => (s.answer call r).2
  | .change id sources =>
    match s.loaders.get? id with
    | some l => s.withLoaders (s.loaders.set { l with sources := sources })
    | none => s

/-- The visits that a render makes. -/
def rendered (s : Session τ) (id : LoaderId) (t : Template) (params : Value) : List Visit :=
  s.loaders.visits id (t.demands (Loaders.host call) params s.memory)

/-- The visits made by fetching a template, and by the render of what is fetched. -/
def fetched (s : Session τ) (id other : LoaderId) (names : List String) (params : Value) :
    List Visit :=
  s.loaders.made id other (Loader.tries names) ++
    match s.fetch other (Loader.loadAny names) with
    | (.ok t, s) => s.rendered call id t params
    | (.error _, _) => []

/-- The visits to a watched loader that a request makes. -/
def visits (s : Session τ) (id : LoaderId) : Request → List Visit
  | .load other name => s.loaders.made id other (Loader.tries [name])
  | .loadAny other names => s.loaders.made id other (Loader.tries names)
  | .render other name params => s.fetched call id other [name] params
  | .renderAny other names params => s.fetched call id other names params
  | .renderGiven index params =>
    match s.given[index]? with
    | some t => s.rendered call id t params
    | none => []
  | .compile .. | .clear _ => []

end

/-- A session in which a loader is watched: its sources as they are now, and the visits that were
made to it since it was last cleared. -/
structure Watch (τ : Type) where
  session : Session τ
  sources : List Loader.Source
  since : List Visit

namespace Watch

variable {τ : Type}

/-- A session that starts with a new loader with a cache, beside others. -/
def start (id : LoaderId) (sources : List Loader.Source) (grammar : Grammar)
    (others : List Loader) (state : τ) : Watch τ where
  session := .start (.new id sources grammar true :: others) state
  sources := sources
  since := []

/-- What is watched behind an event. -/
def next (call : String → Nat → List Value → τ → Except Fault Value × τ) (id : LoaderId)
    (w : Watch τ) (e : Event) : Watch τ where
  session := w.session.follow call e
  sources :=
    match e with
    | .change other sources => if other = id then sources else w.sources
    | .request _ => w.sources
  since :=
    match e with
    | .request (.clear other) => if other = id then [] else w.since
    | .request r => w.since ++ w.session.visits call id r
    | .change .. => w.since

end Watch

section

variable {τ : Type} {call : String → Nat → List Value → τ → Except Fault Value × τ}
  {s : Session τ} {id : LoaderId}
  {sources : List Loader.Source} {since : List Visit}

theorem watches_fetch (watches : s.loaders.Watches id sources since) (other : LoaderId)
    {step : Loader.Loading Template} {visits : Loader → List Visit}
    (makes : Loader.Makes step visits) :
    (s.fetch other step).2.loaders.Watches id sources
      (since ++ s.loaders.made id other visits) := by
  unfold fetch
  cases found : s.loaders.get? other with
  | none =>
    rw [Loaders.made, found, List.append_nil]
    exact watches
  | some l =>
    have left := watches.run found makes
    dsimp only
    generalize s.loaders.run l step = result at left ⊢
    obtain ⟨result, ls⟩ := result
    cases result <;> exact left

theorem watches_take (watches : s.loaders.Watches id sources since) (other : LoaderId)
    {step : Loader.Loading Template} {visits : Loader → List Visit}
    (makes : Loader.Makes step visits) :
    (s.take other step).2.loaders.Watches id sources (since ++ s.loaders.made id other visits) := by
  have left := watches_fetch watches other makes
  unfold take
  generalize s.fetch other step = result at left ⊢
  obtain ⟨result, s'⟩ := result
  cases result <;> exact left

theorem watches_render (watches : s.loaders.Watches id sources since) (t : Template)
    (params : Value) :
    (s.render call t params).2.loaders.Watches id sources
      (since ++ s.rendered call id t params) := by
  show (t.render (Loaders.host call) params s.memory).2.store.loaders.Watches id sources _
  rw [render_store]
  exact watches.after call _

theorem watches_renderTaken (watches : s.loaders.Watches id sources since) (other : LoaderId)
    (names : List String) (params : Value) :
    (s.renderTaken call other (Loader.loadAny names) params).2.loaders.Watches id sources
      (since ++ s.fetched call id other names params) := by
  have left := watches_fetch watches other (Loader.makes_loadAny names)
  unfold renderTaken fetched
  generalize s.fetch other (Loader.loadAny names) = result at left ⊢
  obtain ⟨result, s'⟩ := result
  cases result with
  | error answer =>
    rw [List.append_nil]
    exact left
  | ok t =>
    rw [← List.append_assoc]
    exact watches_render left t params

/-- A request other than to clear a loader. -/
theorem watches_answer (watches : s.loaders.Watches id sources since) (r : Request)
    (keeps : ∀ other, r ≠ .clear other) :
    (s.answer call r).2.loaders.Watches id sources (since ++ s.visits call id r) := by
  cases r with
  | load other name => exact watches_take watches other (Loader.makes_loadAny [name])
  | loadAny other names => exact watches_take watches other (Loader.makes_loadAny names)
  | render other name params => exact watches_renderTaken watches other [name] params
  | renderAny other names params => exact watches_renderTaken watches other names params
  | compile other source =>
    have left := watches_take watches other (Loader.makes_compile source)
    have none : s.loaders.made id other (fun _ => []) = [] := by
      unfold Loaders.made
      split
      · split <;> rfl
      · rfl
    rw [none] at left
    exact left
  | renderGiven index params =>
    unfold answer visits
    dsimp only
    cases s.given[index]? with
    | some t => exact watches_render watches t params
    | none =>
      rw [List.append_nil]
      exact watches
  | clear other => exact absurd rfl (keeps other)

/-- **What is watched stays true with every event.** -/
theorem watches_next {w : Watch τ} (watches : w.session.loaders.Watches id w.sources w.since)
    (e : Event) :
    (w.next call id e).session.loaders.Watches id (w.next call id e).sources
      (w.next call id e).since := by
  cases e with
  | change other sources =>
    unfold Watch.next follow
    dsimp only
    cases found : w.session.loaders.get? other with
    | none =>
      have ne : other ≠ id := by
        rintro rfl
        obtain ⟨l, found', -⟩ := watches
        cases found.symm.trans found'
      rw [if_neg ne]
      exact watches
    | some l =>
      have number := Loaders.id_of_get? found
      subst number
      refine watches.set { l with sources := sources } found (fun own _ remembers => ?_)
        fun others => ⟨if_neg others, rfl⟩
      exact ⟨(if_pos own).symm, remembers.of_cache rfl⟩
  | request r =>
    cases r with
    | clear other =>
      unfold Watch.next follow answer
      dsimp only
      cases found : w.session.loaders.get? other with
      | none =>
        have ne : other ≠ id := by
          rintro rfl
          obtain ⟨l, found', -⟩ := watches
          cases found.symm.trans found'
        rw [if_neg ne]
        exact watches
      | some l =>
        have number := Loaders.id_of_get? found
        subst number
        refine watches.set l.clear found (fun own same remembers => ?_)
          fun others => ⟨rfl, if_neg others⟩
        have forgotten : (if l.id = id then [] else w.since) = [] := if_pos own
        rw [forgotten]
        exact ⟨same, remembers.clear⟩
    | _ => exact watches_answer watches _ nofun

/-- **The cache goes by the history of the loads.**  A new loader with a cache is watched through
any events: requests to it or to other loaders, among them renders that load on the way, and changes
of the sources.  Each visit since it was last cleared went by those before it, and any further one
would go by all of them: the names that are kept are those that some visit found, and each has the
template that was compiled from the sources at the first of these visits.  Behind clearing it every
name is loaded from the sources as they are. -/
theorem cache_history (call : String → Nat → List Value → τ → Except Fault Value × τ)
    (id : LoaderId) (sources : List Loader.Source) (grammar : Grammar) (others : List Loader)
    (state : τ) (events : List Event) :
    let w := events.foldl (Watch.next call id) (.start id sources grammar others state)
    ∃ l, w.session.loaders.get? id = some l ∧ l.sources = w.sources ∧
      (∀ before v after, w.since = before ++ v :: after → v.loader.GoesBy before) ∧
      l.GoesBy w.since ∧
      ∀ name, Loader.load name l.clear = Loader.loadAfresh name l.clear := by
  have run (w : Watch τ) (watches : w.session.loaders.Watches id w.sources w.since) :
      let w := events.foldl (Watch.next call id) w
      w.session.loaders.Watches id w.sources w.since := by
    induction events generalizing w with
    | nil => exact watches
    | cons e rest ih => exact ih _ (watches_next watches e)
  have first : (Watch.start id sources grammar others state).session.loaders.Watches id sources [] := by
    refine ⟨.new id sources grammar true, ?_, rfl, Loader.remembers_new id sources grammar⟩
    exact List.find?_cons_of_pos (by simp [Loader.new])
  obtain ⟨l, found, same, remembers⟩ := run (.start id sources grammar others state) first
  have cleared := remembers.clear
  exact ⟨l, found, same, remembers.went, remembers.goesBy,
    fun name => Loader.load_of_none (cleared.kept name)⟩

end

end Session

end TextTemplate
