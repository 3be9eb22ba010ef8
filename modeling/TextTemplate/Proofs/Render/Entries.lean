import Mathlib
import TextTemplate.Proofs.Loader.Origin
import TextTemplate.Proofs.Render.Saved
import TextTemplate.Proofs.Render.Scope

/-!
# Whose entries are in force

A fragment and the place where it is rendered are passed on separately: a body of a block goes with the
place that was saved for it, an entered template with a place that is made for it.  They stay together:
at every moment of a render the entries of the place are those of a template that has the fragment in
its text (`WrittenBy`).  So what it writes of a value is escaped by the rule for this template, and the
templates that it names are taken from the loader that compiled it (`entries_of_writer`).  That needs no
more of the templates on the way than that they leave the reserved names alone.
-/

namespace TextTemplate

variable {σ : Type}

/-- The names that a node binds, for the nodes behind it or for its own body. -/
inductive Node.Binds : Node → String → Prop
  | assign {target : Target} {e : Expression} {name : String} :
      name ∈ target.names → Binds (.assign target e) name
  | loop {target : Target} {e : Expression} {body : Fragment} {name : String} :
      name ∈ target.names → Binds (.loop target e body) name
  | bind {target : Target} {e : Expression} {body : Fragment} {name : String} :
      name ∈ target.names → Binds (.bind target e body) name

/-- An origin compiled a template that leaves the reserved names alone. -/
structure Origin.Wrote (o : Origin) (t : Template) : Prop where
  compiled : o.Compiled t
  standard : o.grammar.macros = Tag.standard
  defaults : ∀ key ∈ reserved, t.defaults.get? key = none
  tags : ∀ f, t.body.Part f → ∀ line n, (line, n) ∈ f.nodes → ∀ key ∈ reserved, ¬ n.Binds key

/-- A template has a fragment in its text, and the entries in force are those of the template. -/
structure WrittenBy (t : Template) (place : Place) (f : Fragment) : Prop where
  exists_origin : ∃ o : Origin, o.Wrote t
  text : t.body.Part f
  entries : ∀ o : Origin, o.Wrote t → o.Sets t.name place.globals
  free : ∀ key ∈ reserved, place.scope.get? key = none

/-- The expression for the template that a node enters. -/
def Node.entering? : Node → Option Expression
  | .include e | .extend e _ => some e
  | _ => none

/-- What the reserved names stand for at a place, if it is set up for a template of an origin. -/
structure Place.IsSetUp (place : Place) (o : Origin) (called : String) : Prop where
  name : place.lookup? nameKey = some (.text called)
  escape : place.lookup? escapeKey = some (o.grammar.escapeEntry called)
  loader : ∀ id, o.loader? = some id → place.lookup? loaderKey = some (.loader id)

/-! ## Names that are set -/

/-- No part of the template sets a reserved name. -/
theorem Origin.Wrote.not_sets {o : Origin} {t : Template} (wrote : o.Wrote t) {f : Fragment}
    (part : t.body.Part f) {key : String} (mem : key ∈ reserved) : ¬ f.Sets key := by
  rintro ⟨line, n, here, sets⟩
  induction sets generalizing f line with
  | assign named => exact wrote.tags f part line _ here _ mem (.assign named)
  | branch holds inside _ ih => exact ih (.inner part here holds) mem _ inside

theorem Node.Scopes.get? {own scope : Dictionary Value} {n : Node} (scopes : n.Scopes own scope)
    {name : String} (other : ¬ n.Binds name) : scope.get? name = own.get? name := by
  cases scopes with
  | own => rfl
  | loop bound => exact Target.bind_get? bound fun named => other (.loop named)
  | bind bound => exact Target.bind_get? bound fun named => other (.bind named)

/-! ## What is set up -/

theorem Place.lookup?_of_free {place : Place} {key : String} {v : Value}
    (free : place.scope.get? key = none) (found : place.globals.get? key = some v) :
    place.lookup? key = some v := by
  rw [Place.lookup?, free]
  exact found

theorem WrittenBy.isSetUp {t : Template} {place : Place} {f : Fragment}
    (written : WrittenBy t place f) {o : Origin} (wrote : o.Wrote t) : place.IsSetUp o t.name where
  name := Place.lookup?_of_free (written.free _ (by decide)) (written.entries o wrote).name
  escape := Place.lookup?_of_free (written.free _ (by decide)) (written.entries o wrote).escape
  loader id h :=
    Place.lookup?_of_free (written.free _ (by decide)) ((written.entries o wrote).loader id h)

/-- The function that escapes output is the one for the name of the template. -/
theorem Place.IsSetUp.escape?_eq {place : Place} {o : Origin} {called : String}
    (isSetUp : place.IsSetUp o called) : place.escape? = o.grammar.escapeFor called := by
  rw [Place.escape?, isSetUp.escape, Grammar.escapeEntry]
  cases o.grammar.escapeFor called <;> rfl

theorem Place.IsSetUp.loader?_eq {place : Place} {o : Origin} {called : String}
    (isSetUp : place.IsSetUp o called) {id : LoaderId} (h : o.loader? = some id) :
    place.loader? = some id := by
  rw [Place.loader?, isSetUp.loader id h]

/-- A template that is entered is rendered with its own entries. -/
theorem writtenBy_of_enter {t : Template} {p place : Place} (origin : ∃ o : Origin, o.Wrote t)
    (free : ∀ key ∈ reserved, p.scope.get? key = none) (h : t.enter p = .ok place) :
    WrittenBy t place t.body := by
  unfold TemplateOf.enter at h
  split at h
  · cases h
  · cases h
    refine ⟨origin, .self, ?_, ?_⟩
    · intro o wrote
      have sets := wrote.compiled.sets wrote.standard
      exact sets.overlay wrote.compiled.ascending p.globals
    · intro key mem
      obtain ⟨o, wrote⟩ := origin
      rw [Dictionary.get?_overlay_of_none (free key mem)]
      exact wrote.defaults key mem

namespace Render

/-! ## What is written and entered -/

/-- How a node ends that writes what a rule for escaping makes of a value. -/
def outputBy (host : Host σ) (rule : Option Function) (ctx : Context) (e : Expression)
    (p : Progress σ) : EStateM.Result Stop (Progress σ) (Dictionary Value) :=
  let written : Evaluation σ String := do
    let v ← value host ctx.place e
    escapedBy host ctx.place rule v.display
  match written p.memory with
  | .ok text m => .ok ctx.place.scope ⟨p.output ++ text, m⟩
  | .error fault m => .error (.fault fault) ⟨p.output, m⟩

/-- A value is written by the rule that is in force. -/
theorem output_apply (host : Host σ) (render : Renderer σ) (ctx : Context) (e : Expression)
    (p : Progress σ) :
    node host render ctx (.output e) p = outputBy host ctx.place.escape? ctx e p := by
  simp only [node, outputBy, bind_apply, eval_apply, writeEscaped_apply]
  cases value host ctx.place e p.memory with
  | error fault m => rfl
  | ok v m =>
    dsimp only [withMemory_memory]
    cases escapedBy host ctx.place ctx.place.escape? v.display m <;> rfl

/-- A node that names a template enters the one that the loader gives, or fails as the loader does. -/
theorem node_of_load {host : Host σ} {render : Renderer σ} {ctx : Context} {n : Node}
    {e : Expression} {p : Progress σ} {name : String} {m : Memory σ} {id : LoaderId}
    (entering : n.entering? = some e) (hv : value host ctx.place e p.memory = .ok (.text name) m)
    (resolves : resolve host ctx.place (.text name) = load host id name) :
    match load host id name (p.withMemory m) with
    | .ok t _ => entered? host ctx p n = some t
    | .error stop q => node host render ctx n p = .error stop q := by
  have loaded := congrFun resolves (p.withMemory m)
  cases hl : load host id name (p.withMemory m) with
  | ok t q =>
    rw [hl] at loaded
    have found : resolved? host ctx p e = some t := resolved?_of_resolve hv loaded
    cases n with
    | «include» | extend =>
      cases entering
      exact found
    | _ => cases entering
  | error stop q =>
    rw [hl] at loaded
    cases n with
    | «include» | extend =>
      cases entering
      simp only [node, bind_apply, eval_apply, hv, loaded]
    | _ => cases entering

variable {host : Host σ} {t : Template} {ctx : Context} {f : Fragment} {n : Node} {line : Nat}
  {p p' : Progress σ}

/-- A node is begun with the entries of the template that wrote it. -/
theorem WrittenBy.begun {ctx' : Context} (written : WrittenBy t ctx.place f)
    (begins : Begins host (whole host) ctx f.nodes p line n ctx' p') : WrittenBy t ctx'.place f := by
  obtain ⟨o, wrote⟩ := written.exists_origin
  have scope : ∀ key ∈ reserved, ctx'.place.scope.get? key = none := by
    intro key mem
    rw [begins.scope_get? fun line n here sets =>
      wrote.not_sets written.text mem ⟨line, n, here, sets⟩]
    exact written.free key mem
  have globals : ctx'.place.globals = ctx.place.globals := by
    obtain ⟨_, rfl⟩ := begins.exists_scope
    rfl
  refine ⟨⟨o, wrote⟩, written.text, ?_, scope⟩
  rw [globals]
  exact written.entries

/-- A body that a node holds is rendered with the entries of the template that wrote the node. -/
theorem WrittenBy.held {body : Fragment} {scope : Dictionary Value}
    (written : WrittenBy t ctx.place f) (mem : (line, n) ∈ f.nodes) (holds : n.Holds body)
    (scopes : n.Scopes ctx.place.scope scope) : WrittenBy t (ctx.withScope scope).place body := by
  obtain ⟨o, wrote⟩ := written.exists_origin
  refine ⟨⟨o, wrote⟩, .inner written.text mem holds, written.entries, fun key key_mem => ?_⟩
  show scope.get? key = none
  rw [scopes.get? (wrote.tags f written.text line n mem key key_mem)]
  exact written.free key key_mem

/-- **Whose entries are in force.**  At every moment of a render the fragment is text of one of the
templates on the way, and everything in it is rendered with the name of this template, with the
escape function for this name, and with the loader that compiled it, if one did.  So what a node writes
of a value is what this escape function makes of it, and a template that a node names is the one that
this loader gives. -/
theorem entries_of_writer (host : Host σ) (root : Template) (params : Dictionary Value)
    (memory : Memory σ) {stack : List Pending} {fr : Frame σ}
    (moment : Open host (root.start params memory) stack fr)
    (free : ∀ key ∈ reserved, params.get? key = none)
    (family : ∀ t, t = root ∨ (∃ e ∈ stack, e.template = some t) → ∃ o : Origin, o.Wrote t) :
    ∃ t, (t = root ∨ ∃ e ∈ stack, e.template = some t) ∧ t.body.Part fr.fragment ∧
      fr.fragment.name = t.name ∧ ∀ o : Origin, o.Wrote t →
        fr.context.place.IsSetUp o fr.fragment.name ∧
        ∀ line n ctx p,
          Begins host (whole host) fr.context fr.fragment.nodes fr.progress line n ctx p →
          ctx.place.IsSetUp o fr.fragment.name ∧
          ctx.place.escape? = o.grammar.escapeFor fr.fragment.name ∧
          (∀ e, n = .output e → node host (whole host) ctx n p =
            outputBy host (o.grammar.escapeFor fr.fragment.name) ctx e p) ∧
          ∀ id, o.loader? = some id →
            (∀ name, resolve host ctx.place (.text name) = load host id name) ∧
            ∀ e name m, n.entering? = some e →
              value host ctx.place e p.memory = .ok (.text name) m →
              match load host id name (p.withMemory m) with
              | .ok t _ => entered? host ctx p n = some t
              | .error stop q => node host (whole host) ctx n p = .error stop q := by
  -- the property is kept with the templates of the whole stack in view
  have start : (root.start params memory).Keeps fun place _ f =>
      ∃ t, (t = root ∨ ∃ e ∈ stack, e.template = some t) ∧ WrittenBy t place f := by
    refine TemplateOf.start_keeps ⟨root, .inl rfl, family root (.inl rfl), .self, ?_, ?_⟩
    · intro o wrote
      exact wrote.compiled.sets wrote.standard
    · obtain ⟨o, wrote⟩ := family root (.inl rfl)
      intro key mem
      show (root.defaults.overlay params).get? key = none
      rw [Dictionary.get?_overlay_of_none (free key mem)]
      exact wrote.defaults key mem
  have all : ∀ e ∈ stack, (fun e => e ∈ stack) e := fun _ h => h
  have here := (open_keeps start ?_ ?_ moment all).here
  · obtain ⟨t, among, written⟩ := here
    obtain ⟨o, wrote⟩ := written.exists_origin
    have named := wrote.compiled.name_of_part wrote.standard written.text
    refine ⟨t, among, written.text, named, fun o wrote => ?_⟩
    rw [named]
    refine ⟨written.isSetUp wrote, fun line n ctx p begins => ?_⟩
    have isSetUp := (WrittenBy.begun written begins).isSetUp wrote
    refine ⟨isSetUp, isSetUp.escape?_eq, ?_, fun id same => ?_⟩
    · rintro e rfl
      rw [output_apply, isSetUp.escape?_eq]
    · have resolves (name : String) : resolve host ctx.place (.text name) = load host id name := by
        rw [resolve, isSetUp.loader?_eq same]
      exact ⟨resolves, fun e name m entering hv => node_of_load entering hv (resolves name)⟩
  · rintro fr ⟨t, among, written⟩ line n ctx p begins body scope holds scopes
    exact ⟨t, among, WrittenBy.held (WrittenBy.begun written begins) begins.mem holds scopes⟩
  · rintro fr ⟨t, among, written⟩ line n ctx p begins t' fr' enters open_
    have among' : t' = root ∨ ∃ e ∈ stack, e.template = some t' := .inr ⟨_, open_, rfl⟩
    exact ⟨t', among', writtenBy_of_enter (family t' among') (WrittenBy.begun written begins).free
      enters.enter.1⟩

/-! ## A text that is included in a page -/

namespace Including

/-- Writes a value, and includes a note. -/
def page : String := "\x7b\x7b v \x7d\x7d\x7b% include t %\x7d"

/-- Writes a value. -/
def note : String := "\x7b\x7b v \x7d\x7d"

def named (name : String) : Expression := ⟨name, .name name⟩

def pageBody : Fragment := ⟨"page.html", [(1, .output (named "v")), (1, .include (named "t"))]⟩

def noteBody : Fragment := ⟨"note.txt", [(1, .output (named "v"))]⟩

def grammar : Grammar := .standard (.escaper 0)

/-- The loader that compiles the page. -/
def loader : Loader := .new ⟨0⟩ [] grammar false

def pageTemplate : Template :=
  ⟨⟨some ⟨0⟩, 0⟩, pageBody, .empty, grammar.entries "page.html" (Loader.withLoader ⟨0⟩ .empty)⟩

def noteTemplate : Template := ⟨⟨none, 0⟩, noteBody, .empty, grammar.entries "note.txt" .empty⟩

set_option maxRecDepth 100000 in
theorem compile_page : Loader.compileWith page "page.html" .empty .empty loader =
    .ok pageTemplate { loader with compiled := 1 } := by
  refine Loader.compileWith_of_compile (Grammar.compile_of_parse _ _ _ ?_)
  show Tag.parseTemplate Tag.standard page "page.html" = .ok pageBody
  cbv

set_option maxRecDepth 100000 in
theorem compile_note :
    grammar.compile ⟨none, 0⟩ note "note.txt" .empty .empty = .ok noteTemplate := by
  refine Grammar.compile_of_parse _ _ _ ?_
  show Tag.parseTemplate Tag.standard note "note.txt" = .ok noteBody
  cbv

/-- A body in which no node holds or binds anything binds no reserved name. -/
theorem tags_of_flat {body : Fragment} (holds : ∀ line n, (line, n) ∈ body.nodes → ∀ f, ¬ n.Holds f)
    (binds : ∀ line n, (line, n) ∈ body.nodes → ∀ name, ¬ n.Binds name) :
    ∀ f, body.Part f → ∀ line n, (line, n) ∈ f.nodes → ∀ key ∈ reserved, ¬ n.Binds key := by
  have whole : ∀ f, body.Part f → f = body := by
    intro f part
    induction part with
    | self => rfl
    | inner _ mem held ih =>
      rw [ih] at mem
      exact absurd held (holds _ _ mem _)
  intro f part line n mem key _
  rw [whole f part] at mem
  exact binds line n mem key

/-- The nodes of the page and of the note. -/
theorem wrote_tags {body : Fragment} (here : ∀ e ∈ body.nodes,
      e.2 = .output (named "v") ∨ e.2 = .include (named "t")) :
    ∀ f, body.Part f → ∀ line n, (line, n) ∈ f.nodes → ∀ key ∈ reserved, ¬ n.Binds key := by
  refine tags_of_flat (fun line n mem f holds => ?_) fun line n mem name binds => ?_
  · obtain rfl | rfl : n = _ ∨ n = _ := here (line, n) mem <;> cases holds
  · obtain rfl | rfl : n = _ ∨ n = _ := here (line, n) mem <;> cases binds

theorem wrote_page : loader.origin.Wrote pageTemplate where
  compiled := .loader (fun _ _ _ => rfl) compile_page
  standard := rfl
  defaults _ _ := rfl
  tags := wrote_tags (by simp [pageTemplate, pageBody])

theorem wrote_note : (⟨grammar, none⟩ : Origin).Wrote noteTemplate where
  compiled := .alone (fun _ _ => rfl) compile_note
  standard := rfl
  defaults _ _ := rfl
  tags := wrote_tags (by simp [noteTemplate, noteBody])

/-- The parameters: the note, and the value that both write. -/
def params : Dictionary Value := ⟨[("t", .template noteTemplate), ("v", .text "<")]⟩

/-- The note is about to be rendered inside of the page, which has written the value before. -/
def noteFrame : Frame Unit :=
  ⟨(pageTemplate.context params).including
    ⟨params, pageTemplate.globals.overlay noteTemplate.globals, 1⟩, noteBody, ⟨"&lt;", blank⟩⟩

/-- The page includes the note. -/
def including : Pending :=
  ⟨.include (named "t"), pageTemplate.context params, some noteTemplate, noteFrame.context⟩

theorem enters_note : EntersAt bareHost (pageTemplate.context params) ⟨"&lt;", blank⟩
    (.include (named "t")) noteTemplate noteFrame := .include (.intro rfl rfl rfl)

theorem open_note : Open bareHost (pageTemplate.start params blank) [including] noteFrame := by
  have opens : Opens bareHost (whole bareHost) (pageTemplate.context params) ⟨"&lt;", blank⟩
      (.include (named "t")) noteFrame := by
    cases enters_note with | «include» h => exact .include h
  exact .inside .root ⟨1, ⟨"&lt;", blank⟩, .tail rfl .head, opens, enters_note.entered?_eq.symm, rfl⟩

/-- The note is rendered under its own name and without the escape function of the page: the value is
escaped in the page, but not in the note. -/
theorem included_note : ∃ (stack : List Pending) (fr : Frame Unit),
    Open bareHost (pageTemplate.start params blank) stack fr ∧ fr.fragment = noteBody ∧
      fr.context.place.IsSetUp ⟨grammar, none⟩ "note.txt" ∧ fr.context.place.escape? = none ∧
      fr.progress.output = "&lt;" ∧
      node bareHost (whole bareHost) fr.context (.output (named "v")) fr.progress =
        .ok params ⟨"&lt;<", blank⟩ := by
  have family : ∀ t, t = pageTemplate ∨ (∃ e ∈ [including], e.template = some t) →
      ∃ o : Origin, o.Wrote t := by
    rintro t (rfl | ⟨e, mem, same⟩)
    · exact ⟨_, wrote_page⟩
    · cases List.mem_singleton.1 mem
      cases same
      exact ⟨_, wrote_note⟩
  have free : ∀ key ∈ reserved, params.get? key = none := by decide
  obtain ⟨t, among, -, named, entries⟩ :=
    entries_of_writer bareHost pageTemplate params blank open_note free family
  have same : t = noteTemplate := by
    rcases among with rfl | ⟨e, mem, same⟩
    · exact absurd named (by decide)
    · cases List.mem_singleton.1 mem
      cases same
      rfl
  subst same
  obtain ⟨isSetUp, nodes⟩ := entries _ wrote_note
  obtain ⟨-, escape, output, -⟩ := nodes 1 _ _ _ .head
  refine ⟨_, noteFrame, open_note, rfl, isSetUp, escape, rfl, ?_⟩
  exact output _ rfl

end Including

end Render

end TextTemplate
