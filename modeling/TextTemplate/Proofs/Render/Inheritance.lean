import Mathlib
import TextTemplate.Proofs.Grammar
import TextTemplate.Proofs.Render.Saved
import TextTemplate.Proofs.Tag.Recount

/-!
# Which body a block renders

In a chain of templates that extend one another, the heirs of a context are the templates below the
one whose text is rendered (`Stands`), at every moment as long as nothing is included.  A block of
that text renders the body of the first template of the chain that declares it, and `super` goes on
with the next one, up to the block's own body (`block_resolution`).  Which templates declare a block
is read off the tokens that they were compiled from (`Overrides`).
-/

namespace TextTemplate

variable {σ : Type}

/-! ## Declarations -/

/-- A template with the text that it was compiled from, with the standard tags. -/
structure Written where
  template : Template
  source : String
  compiled : ∃ (g : Grammar) (id : TemplateId) (name : String)
    (defaults further : Dictionary Value), g.macros = Tag.standard ∧
      g.compile id source name defaults further = .ok template

/-- Whether a fragment itself extends a template. -/
def Fragment.Extends (f : Fragment) : Prop :=
  ∃ line parent blocks, (line, .extend parent blocks) ∈ f.nodes

/-- The text of a template declares a block with a body. -/
def Written.Declares (t : Written) (x : String) (body : Fragment) : Prop :=
  Tag.Declares t.template.name (Markup.tokenize t.source) x body

/-- A template that extended another one, with what it left behind. -/
structure Link where
  written : Written
  heir : Heir

/-- The blocks that a template left behind are those of its tag. -/
def Link.IsTagged (l : Link) : Prop :=
  ∃ line parent, (line, .extend parent l.heir.blocks) ∈ l.written.template.body.nodes

/-- The bodies of a block that some templates declare, in their order, each with the place where its
template extended another one. -/
inductive Overrides (x : String) : List Link → List (Place × Fragment) → Prop
  | nil : Overrides x [] []
  | declared {l : Link} {links : List Link} {body : Fragment} {bodies : List (Place × Fragment)} :
      l.written.Declares x body → Overrides x links bodies →
      Overrides x (l :: links) ((l.heir.place, body) :: bodies)
  | skipped {l : Link} {links : List Link} {bodies : List (Place × Fragment)} :
      (∀ body, ¬ l.written.Declares x body) → Overrides x links bodies →
      Overrides x (l :: links) bodies

theorem Written.derives (t : Written) : ∃ nodes blocks,
    t.template.body = ⟨t.template.name, nodes⟩ ∧
      Tag.Derives t.template.name (.nodes true nodes) (Markup.tokenize t.source) blocks := by
  obtain ⟨g, id, name, defaults, further, standard, compiled⟩ := t.compiled
  obtain ⟨named, derived⟩ := Grammar.derives_of_compile compiled standard
  rw [named]
  exact derived

/-- No body inside of a template extends another one. -/
theorem Written.not_extends {t : Written} {f body : Fragment} {line : Nat} {n : Node}
    (part : t.template.body.Part f) (mem : (line, n) ∈ f.nodes) (holds : n.Holds body) :
    ¬ body.Extends := by
  obtain ⟨nodes, blocks, same, derived⟩ := t.derives
  rw [same] at part
  have isBody : ∃ name tokens, Tag.IsBody name tokens body := by
    rcases derived.isBody_of_part part with rfl | ⟨_, _, _, rfl, inner, _⟩
    · exact ⟨_, _, derived.isBody_of_holds ⟨line, n, mem, holds⟩⟩
    · exact ⟨_, _, inner.isBody_of_holds ⟨line, n, mem, holds⟩⟩
  obtain ⟨_, _, isBody⟩ := isBody
  rintro ⟨_, _, _, extend⟩
  exact isBody.not_extend extend

/-- The blocks at the tag that extends a template are those that its text declares. -/
theorem Written.get?_of_extend {t : Written} {line : Nat} {parent : Expression}
    {blocks : Dictionary Fragment} (mem : (line, .extend parent blocks) ∈ t.template.body.nodes)
    (x : String) :
    match blocks.get? x with
    | some body => t.Declares x body
    | none => ∀ body, ¬ t.Declares x body := by
  obtain ⟨nodes, listed, same, derived⟩ := t.derives
  rw [same] at mem
  have registers := (derived.registers_of_extend rfl mem).2
  cases found : blocks.get? x with
  | some body =>
    rcases (registers.get?_eq_some x body).1 found with listed | old
    · exact derived.declares listed
    · cases old
  | none =>
    intro body declares
    -- the tag of the declaration is listed, so that the block is registered
    have listed : ∃ body, (x, body) ∈ listed := by
      cases declares with
      | @intro before _ _ line tag _ _ _ _ _ taken _ _ split =>
        have mem : (⟨line, .tag, tag⟩ : Markup.Token) ∈ Markup.tokenize t.source := by
          rw [split]
          exact List.mem_append_right before (.head _)
        exact derived.exists_mem_of_tag mem rfl taken
    obtain ⟨body', listed⟩ := listed
    have := (registers.get?_eq_some x body').2 (.inl listed)
    rw [found] at this
    cases this

/-! ## Versions -/

/-- A body with its place. -/
def Version.located (v : Version) : Place × Fragment := (v.place, v.body)

/-- The body that an heir declares for a block, with its place. -/
def Heir.located? (x : String) (heir : Heir) : Option (Place × Fragment) :=
  (heir.blocks.get? x).map fun body => (heir.place, body)

theorem declaredBy_located (x : String) (heirs : List Heir) :
    (declaredBy x heirs).map Version.located = heirs.filterMap (Heir.located? x) := by
  induction heirs with
  | nil => rfl
  | cons heir farther ih =>
    rw [declaredBy, List.filterMap_cons, Heir.located?]
    cases heir.blocks.get? x with
    | none => exact ih
    | some body =>
      dsimp only [Option.map_some]
      rw [List.map_cons, ih]
      rfl

/-- The heirs that templates of a chain leave, the nearest first. -/
def heirsOf (links : List Link) : List Heir := (links.map (·.heir)).reverse

theorem versions_located {ctx : Context} {links : List Link} (heirs : ctx.heirs = heirsOf links)
    (x : String) (body : Fragment) :
    (ctx.versions x body).map Version.located =
      (links.map (·.heir)).filterMap (Heir.located? x) ++ [(ctx.place, body)] := by
  rw [Context.versions, List.map_append, List.map_reverse, declaredBy_located, heirs, heirsOf,
    List.filterMap_reverse, List.reverse_reverse]
  rfl

/-- What the heirs of a chain declare is what the texts of its templates declare. -/
theorem overrides_located {links : List Link} (tagged : ∀ l ∈ links, l.IsTagged) (x : String) :
    Overrides x links ((links.map (·.heir)).filterMap (Heir.located? x)) := by
  induction links with
  | nil => exact .nil
  | cons l links ih =>
    have rest := ih fun l' h => tagged l' (.tail _ h)
    obtain ⟨line, parent, mem⟩ := tagged l (.head _)
    have here := l.written.get?_of_extend mem x
    rw [List.map_cons, List.filterMap_cons, Heir.located?]
    cases found : l.heir.blocks.get? x with
    | none =>
      rw [found] at here
      exact .skipped here rest
    | some body =>
      rw [found] at here
      exact .declared here rest

/-- A node that renders a body of its own in place: a branch, a loop or a binding. -/
def Node.isInPlace : Node → Bool
  | .branch .. | .loop .. | .bind .. => true
  | _ => false

namespace Render

variable (host : Host σ)

/-! ## Chains -/

/-- A template is rendered at the end of a chain of templates that extend one another, behind the
links of those before it.  The first one is the template that the render starts with. -/
inductive Chain (first : Written) (params : Dictionary Value) (memory : Memory σ) :
    List Link → Written → Frame σ → Prop
  | start : Chain first params memory [] first (first.template.start params memory)
  | extend {links : List Link} {t parent : Written} {fr fr' : Frame σ} {line : Nat}
      {e : Expression} {blocks : Dictionary Fragment} {ctx : Context} {p : Progress σ} :
      Chain first params memory links t fr →
      Begins host (whole host) fr.context fr.fragment.nodes fr.progress line (.extend e blocks)
        ctx p →
      EntersAt host ctx p (.extend e blocks) parent.template fr' →
      Chain first params memory (links ++ [⟨t, ctx.place, blocks⟩]) parent fr'

/-! ## Runs of a block -/

/-- The frames inside a body: the body itself, and what branches, loops and bindings render in it. -/
inductive Within (fr : Frame σ) : Frame σ → Prop
  | self : Within fr fr
  | inner {fr' fr'' : Frame σ} {line : Nat} {n : Node} {ctx : Context} {p : Progress σ} :
      Within fr fr' →
      Begins host (whole host) fr'.context fr'.fragment.nodes fr'.progress line n ctx p →
      n.isInPlace = true → Opens host (whole host) ctx p n fr'' → Within fr fr''

/-- The bodies that a block renders one inside the other: the first one by itself, each later one by
a `super` inside the one before. -/
inductive Runs (ctx : Context) (p : Progress σ) (x : String) (body : Fragment) :
    Nat → Frame σ → Prop
  | block {fr : Frame σ} :
      Opens host (whole host) ctx p (.block x body) fr → Runs ctx p x body 0 fr
  | super {k : Nat} {fr fr' fr'' : Frame σ} {line : Nat} {ctx' : Context} {p' : Progress σ} :
      Runs ctx p x body k fr → Within host fr fr' →
      Begins host (whole host) fr'.context fr'.fragment.nodes fr'.progress line .super ctx' p' →
      Opens host (whole host) ctx' p' .super fr'' → Runs ctx p x body (k + 1) fr''

variable {host}

theorem Begins.overridden_eq {render : Renderer σ} {ctx ctx' : Context} {list : List (Nat × Node)}
    {line : Nat} {n : Node} {p p' : Progress σ}
    (begins : Begins host render ctx list p line n ctx' p') : ctx'.overridden = ctx.overridden := by
  obtain ⟨scope, rfl⟩ := begins.exists_scope
  rfl

/-- Inside a body the same bodies are overridden. -/
theorem Within.overridden_eq {fr fr' : Frame σ} (h : Within host fr fr') :
    fr'.context.overridden = fr.context.overridden := by
  induction h with
  | self => rfl
  | inner _ begins inPlace opens ih =>
    rw [← ih, ← begins.overridden_eq]
    cases opens with
    | branch => rfl
    | loop _ _ iterates =>
      obtain ⟨_, scope, hc⟩ := iterates.exists_scope
      rw [hc]
      rfl
    | bind => rfl
    | «include» => cases inPlace
    | block => cases inPlace
    | extend => cases inPlace
    | super => cases inPlace

theorem Takes.eq_cons {p : Progress σ} {versions : List Version} {fr : Frame σ}
    (takes : Takes p versions fr) :
    ∃ v, versions = v :: fr.context.overridden ∧ v.located = (fr.context.place, fr.fragment) := by
  cases takes with
  | head v overridden => exact ⟨v, rfl, rfl⟩

variable {ctx : Context} {p : Progress σ} {x : String} {body : Fragment} {k : Nat} {fr : Frame σ}

/-- The body that is rendered is the next of the block's bodies, and those behind it are the ones
that are still overridden. -/
theorem Runs.drop_versions (runs : Runs host ctx p x body k fr) :
    ∃ v, (ctx.versions x body).drop k = v :: fr.context.overridden ∧
      v.located = (fr.context.place, fr.fragment) := by
  induction runs with
  | block opens =>
    cases opens with
    | block takes => exact takes.eq_cons
  | @super k fr fr' fr'' _ ctx' _ _ within begins opens ih =>
    obtain ⟨v, left, -⟩ := ih
    cases opens with
    | super takes =>
      obtain ⟨w, next, located⟩ := takes.eq_cons
      refine ⟨w, ?_, located⟩
      calc (ctx.versions x body).drop (k + 1)
        _ = ((ctx.versions x body).drop k).tail := List.tail_drop.symm
        _ = fr.context.overridden := by rw [left]; rfl
        _ = ctx'.overridden := by rw [begins.overridden_eq, within.overridden_eq]
        _ = w :: fr''.context.overridden := next

theorem Runs.getElem?_versions (runs : Runs host ctx p x body k fr) :
    ((ctx.versions x body).map Version.located)[k]? = some (fr.context.place, fr.fragment) := by
  obtain ⟨v, left, located⟩ := runs.drop_versions
  rw [List.getElem?_map, ← List.head?_drop, left, ← located]
  rfl

/-- How many bodies are still overridden. -/
theorem Runs.length_versions (runs : Runs host ctx p x body k fr) :
    (ctx.versions x body).length = k + 1 + fr.context.overridden.length := by
  obtain ⟨v, left, -⟩ := runs.drop_versions
  have count := congrArg List.length left
  rw [List.length_drop, List.length_cons] at count
  omega

/-- A block renders some bodies in order, each with its place: the first one by itself, the next ones
by `super`.  The node ends as its body does, in its own scope.  The `super` of the last one renders
nothing. -/
structure RendersInOrder (host : Host σ) (ctx : Context) (p : Progress σ) (x : String)
    (body : Fragment) (bodies : List (Place × Fragment)) : Prop where
  first : ∃ fr, Runs host ctx p x body 0 fr ∧
    node host (whole host) ctx (.block x body) p =
      leave (some ctx.place.scope) (resume (whole host) fr)
  each : ∀ k fr, Runs host ctx p x body k fr → bodies[k]? = some (fr.context.place, fr.fragment)
  next : ∀ k fr fr' line ctx' p', Runs host ctx p x body k fr → Within host fr fr' →
    Begins host (whole host) fr'.context fr'.fragment.nodes fr'.progress line .super ctx' p' →
    if k + 1 < bodies.length then
      ∃ fr'', Opens host (whole host) ctx' p' .super fr'' ∧
        node host (whole host) ctx' .super p' =
          leave (some ctx'.place.scope) (resume (whole host) fr'')
    else node host (whole host) ctx' .super p' = .ok ctx'.place.scope p'

/-- Where there are bodies, the first one is rendered, and its node ends as it does. -/
theorem takes_of_ne_nil {versions : List Version} (h : versions ≠ []) (p : Progress σ) :
    ∃ fr, Takes p versions fr ∧ ∀ (render : Renderer σ) (scope : Dictionary Value),
      (version render versions >>= fun _ => pure scope) p =
        leave (some scope) (resume render fr) := by
  cases versions with
  | nil => exact absurd rfl h
  | cons v overridden =>
    refine ⟨_, .head v overridden, fun render scope => ?_⟩
    simp only [version, bind_apply, pure_apply, resume]
    cases render (v.context overridden) v.body p <;> rfl

/-- A block renders its bodies in the order of its versions. -/
theorem rendersInOrder_versions (ctx : Context) (p : Progress σ) (x : String) (body : Fragment) :
    RendersInOrder host ctx p x body ((ctx.versions x body).map Version.located) where
  first := by
    have some : ctx.versions x body ≠ [] := by simp [Context.versions]
    obtain ⟨fr, takes, ends⟩ := takes_of_ne_nil some p
    exact ⟨fr, .block (.block takes), ends (whole host) ctx.place.scope⟩
  each := fun k fr runs => runs.getElem?_versions
  next := by
    intro k fr fr' line ctx' p' runs within begins
    have count := runs.length_versions
    have same : ctx'.overridden = fr.context.overridden := by
      rw [begins.overridden_eq, within.overridden_eq]
    rw [List.length_map, count]
    split
    · have more : ctx'.overridden ≠ [] := by
        rw [same, ← List.length_pos_iff]
        omega
      obtain ⟨fr'', takes, ends⟩ := takes_of_ne_nil more p'
      exact ⟨fr'', .super takes, ends (whole host) ctx'.place.scope⟩
    · have none : ctx'.overridden = [] := by
        rw [same, ← List.length_eq_zero_iff]
        omega
      rw [node, none]
      rfl

/-! ## Standing in a chain -/

/-- A fragment is text of a template of a chain, and the heirs are those of the templates below. -/
structure Stands (links : List Link) (top : Written) (heirs : List Heir) (f : Fragment) (i : Nat)
    (t : Written) : Prop where
  template : (links.map (·.written) ++ [top])[i]? = some t
  text : t.template.body.Part f
  heirs : heirs = heirsOf (links.take i)

/-- A fragment that extends nothing stands somewhere in a chain. -/
def StandsInside (links : List Link) (top : Written) (heirs : List Heir) (f : Fragment) : Prop :=
  ¬ f.Extends ∧ ∃ i t, Stands links top heirs f i t

section Chains

variable {first top : Written} {params : Dictionary Value} {memory : Memory σ} {links : List Link}

theorem Chain.frame_eq (chain : Chain host first params memory links top fr) :
    fr.context.heirs = heirsOf links ∧ fr.context.overridden = [] ∧
      fr.fragment = top.template.body := by
  induction chain with
  | start => exact ⟨rfl, rfl, rfl⟩
  | extend _ begins enters ih =>
    obtain ⟨heirs, overridden, -⟩ := ih
    obtain ⟨scope, rfl⟩ := begins.exists_scope
    cases enters with
    | extend enters =>
      cases enters with
      | intro =>
        refine ⟨?_, overridden, rfl⟩
        rw [heirsOf, List.map_append, List.reverse_append]
        exact congrArg (List.cons _) heirs

theorem Chain.tagged (chain : Chain host first params memory links top fr) :
    ∀ l ∈ links, l.IsTagged := by
  induction chain with
  | start =>
    intro l h
    cases h
  | extend chain begins _ ih =>
    intro l h
    rcases List.mem_append.1 h with h | h
    · exact ih l h
    · cases List.mem_singleton.1 h
      have mem := begins.mem
      rw [chain.frame_eq.2.2] at mem
      exact ⟨_, _, mem⟩

theorem heirsOf_take_succ {i : Nat} {l : Link} (h : links[i]? = some l) :
    heirsOf (links.take (i + 1)) = l.heir :: heirsOf (links.take i) := by
  rw [heirsOf, List.take_add_one, h, Option.toList_some, List.map_append, List.reverse_append]
  rfl

/-- What the heirs of a chain declare stands where they stood. -/
theorem saves_heirsOf (tagged : ∀ l ∈ links, l.IsTagged) (i : Nat) :
    HeirsSave (fun _ => StandsInside links top) (heirsOf (links.take i)) := by
  induction i with
  | zero => exact trivial
  | succ i ih =>
    cases h : links[i]? with
    | none =>
      have short := List.getElem?_eq_none_iff.1 h
      rw [List.take_of_length_le short] at ih
      rw [List.take_of_length_le (by omega)]
      exact ih
    | some l =>
      rw [heirsOf_take_succ h]
      refine ⟨fun name body found => ?_, ih⟩
      obtain ⟨line, parent, mem⟩ := tagged l (List.mem_of_getElem? h)
      have holds : (Node.extend parent l.heir.blocks).Holds body := .declared found
      have within : i < (links.map (·.written)).length := by
        rw [List.length_map]
        exact (List.getElem?_eq_some_iff.1 h).1
      refine ⟨Written.not_extends .self mem holds, i, l.written, ?_, .inner .self mem holds, rfl⟩
      rw [List.getElem?_append_left within, List.getElem?_map, h]
      rfl

/-- Behind a chain whose last template extends nothing, all text stands in the chain at every moment,
as long as nothing is included. -/
theorem Chain.stands {fr' : Frame σ} {inner : List Pending}
    (chain : Chain host first params memory links top fr) (last : ¬ top.template.body.Extends)
    (moment : Open host fr inner fr') (none : ∀ e ∈ inner, ∀ t, e.node ≠ .include t) :
    StandsInside links top fr'.context.heirs fr'.fragment := by
  obtain ⟨heirs, overridden, body⟩ := chain.frame_eq
  have start : fr.Keeps fun _ => StandsInside links top := by
    refine ⟨⟨?_, links.length, top, ?_, ?_, ?_⟩, ⟨?_, ?_⟩⟩
    · rw [body]
      exact last
    · rw [List.getElem?_append_right (by rw [List.length_map]), List.length_map, Nat.sub_self]
      rfl
    · rw [body]
      exact .self
    · rw [heirs, List.take_length]
    · rw [heirs]
      have all : HeirsSave (fun _ => StandsInside links top) (heirsOf (links.take links.length)) :=
        saves_heirsOf chain.tagged links.length
      rwa [List.take_length] at all
    · rw [overridden]
      intro v h
      cases h
  refine (open_keeps start ?_ ?_ moment none).here
  · intro fr here line n ctx p begins inside _ holds _
    obtain ⟨-, i, t, stands⟩ := here
    obtain ⟨_, rfl⟩ := begins.exists_scope
    exact ⟨Written.not_extends stands.text begins.mem holds, i, t, stands.template,
      .inner stands.text begins.mem holds, stands.heirs⟩
  · intro fr here line n ctx p begins _ _ enters allowed
    cases enters with
    | «include» => exact absurd rfl (allowed _)
    | extend => exact absurd ⟨_, _, _, begins.mem⟩ here.1

/-- **Which body a block renders.**  Whenever text of a template of a chain is rendered, its context
has as many heirs as there are templates below it.  A block of that text renders the bodies that these
declare, in the order of the chain and each where its template stood, and behind them its own body. -/
theorem block_resolution (host : Host σ) (first : Written) (params : Dictionary Value) (memory : Memory σ)
    {links : List Link} {top : Written} {fr fr' : Frame σ} {inner : List Pending} {line : Nat}
    {x : String} {body : Fragment} {ctx : Context} {p : Progress σ}
    (chain : Chain host first params memory links top fr) (last : ¬ top.template.body.Extends)
    (moment : Open host fr inner fr') (none : ∀ e ∈ inner, ∀ t, e.node ≠ .include t)
    (begins : Begins host (whole host) fr'.context fr'.fragment.nodes fr'.progress line
      (.block x body) ctx p) :
    ∃ i t, (links.map (·.written) ++ [top])[i]? = some t ∧ t.template.body.Part fr'.fragment ∧
      ctx.heirs.length = i ∧ ∃ overriding, Overrides x (links.take i) overriding ∧
        RendersInOrder host ctx p x body (overriding ++ [(ctx.place, body)]) := by
  obtain ⟨-, i, t, stands⟩ := chain.stands last moment none
  obtain ⟨scope, rfl⟩ := begins.exists_scope
  have heirs : (fr'.context.withScope scope).heirs = heirsOf (links.take i) := stands.heirs
  refine ⟨i, t, stands.template, stands.text, ?_, _,
    overrides_located (fun l h => chain.tagged l (List.mem_of_mem_take h)) x, ?_⟩
  · have bound : i < (links.map (·.written) ++ [top]).length :=
      (List.getElem?_eq_some_iff.1 stands.template).1
    rw [List.length_append, List.length_map, List.length_singleton] at bound
    rw [heirs, heirsOf, List.length_reverse, List.length_map, List.length_take]
    omega
  · rw [← versions_located heirs]
    exact rendersInOrder_versions _ p x body

end Chains

/-! ## A block that is overridden -/

namespace Overriding

/-- Declares a block that writes a value. -/
def base : String := "\x7b% block x %\x7d\x7b\x7b y \x7d\x7d\x7b% endblock %\x7d"

/-- Extends the base with a block of the same name that goes on with the one it overrides. -/
def derived : String :=
  "\x7b% extends b %\x7d\x7b% block x %\x7d\x7b% super %\x7d\x7b% endblock %\x7d"

/-- The block's own body. -/
def own : Fragment := ⟨unnamed, [(1, .output ⟨"y", .name "y"⟩)]⟩

def baseBody : Fragment := ⟨unnamed, [(1, .block "x" own)]⟩

def blocks : Dictionary Fragment := ⟨[("x", ⟨unnamed, [(1, .super)]⟩)]⟩

def derivedBody : Fragment := ⟨unnamed, [(1, .extend ⟨"b", .name "b"⟩ blocks)]⟩

def grammar : Grammar := .standard (.escaper 0)

def baseTemplate : Template := ⟨⟨none, 0⟩, baseBody, .empty, grammar.entries unnamed .empty⟩

def derivedTemplate : Template := ⟨⟨none, 1⟩, derivedBody, .empty, grammar.entries unnamed .empty⟩

set_option maxRecDepth 100000 in
theorem compile_base :
    grammar.compile ⟨none, 0⟩ base unnamed .empty .empty = .ok baseTemplate := by
  refine Grammar.compile_of_parse _ _ _ ?_
  show Tag.parseTemplate Tag.standard base unnamed = .ok baseBody
  cbv

set_option maxRecDepth 100000 in
theorem compile_derived :
    grammar.compile ⟨none, 1⟩ derived unnamed .empty .empty = .ok derivedTemplate := by
  refine Grammar.compile_of_parse _ _ _ ?_
  show Tag.parseTemplate Tag.standard derived unnamed = .ok derivedBody
  cbv

def writtenBase : Written := ⟨baseTemplate, base, _, _, _, _, _, rfl, compile_base⟩

def writtenDerived : Written := ⟨derivedTemplate, derived, _, _, _, _, _, rfl, compile_derived⟩

/-- The parameters: the base under the name that the derived template extends. -/
def params : Dictionary Value := ⟨[("b", .template baseTemplate)]⟩

/-- What the derived template leaves behind where it extends the base. -/
def link : Link := ⟨writtenDerived, (derivedTemplate.context params).place, blocks⟩

/-- The block of the base renders what the derived template declares, and then its own body. -/
theorem overridden_block : ∃ (fr : Frame Unit) (overriding : List (Place × Fragment)),
    Chain bareHost writtenDerived params blank [link] writtenBase fr ∧
    Begins bareHost (whole bareHost) fr.context fr.fragment.nodes fr.progress 1
      (.block "x" own) fr.context fr.progress ∧
    Overrides "x" [link] overriding ∧
    RendersInOrder bareHost fr.context fr.progress "x" own
      (overriding ++ [(fr.context.place, own)]) := by
  have enters : EntersAt bareHost (derivedTemplate.context params) ⟨"", blank⟩
      (.extend ⟨"b", .name "b"⟩ blocks) baseTemplate _ := .extend (.intro rfl rfl rfl)
  have chain : Chain bareHost writtenDerived params blank [link] writtenBase _ :=
    .extend .start .head enters
  have last : ¬ writtenBase.template.body.Extends := by
    rintro ⟨line, parent, blocks, mem⟩
    cases mem with | tail _ mem => cases mem
  obtain ⟨i, t, -, -, count, overriding, overrides, renders⟩ :=
    block_resolution bareHost writtenDerived params blank chain last .root
      (fun e he => absurd he List.not_mem_nil) .head
  obtain rfl : 1 = i := count
  exact ⟨_, overriding, chain, .head, overrides, renders⟩

end Overriding

end Render

end TextTemplate
